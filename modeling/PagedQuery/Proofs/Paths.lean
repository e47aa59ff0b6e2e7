import PagedQuery.Client
import PagedQuery.Proofs.Http.Log
import PagedQuery.Proofs.Text.Trimming
import PagedQuery.Proofs.View.Address
import PagedQuery.Proofs.View.Steps

/-!
# PagedQuery.Proofs.Paths

Where fluent steps lead.  Whatever way is taken from a client, through namespaces, collections,
resources and actions, each step appends one name (`Place.Leads.path_eq`), so that the path is put
together of the names alone (`Client.Reaches.path_eq`).  At this path views are read and changes are
made, also over HTTP, where it comes behind the endpoint and one slash (`fluent_paths_compose`).
-/

namespace PagedQuery

/-! ## Names -/

/-- A name without the slashes around it. -/
def bareName (name : String) : String :=
  String.ofList (Text.stripWhere (· == '/') name.toList)

/-- Apart from slashes at its ends `text` is `bare`, which has none there. -/
structure IsBare (bare text : String) : Prop where
  around : ∃ before behind,
    text.toList = List.replicate before '/' ++ bare.toList ++ List.replicate behind '/'
  first : ∀ c ∈ bare.toList.head?, c ≠ '/'
  last : ∀ c ∈ bare.toList.getLast?, c ≠ '/'

theorem isBare_bareName (name : String) : IsBare (bareName name) name where
  around := by
    rw [bareName, String.toList_ofList]
    exact Text.exists_replicate_stripWhere '/' name.toList
  first := fun c hc => by
    rw [bareName, String.toList_ofList] at hc
    simpa using Text.head?_stripWhere c hc
  last := fun c hc => by
    rw [bareName, String.toList_ofList] at hc
    simpa using Text.getLast?_stripWhere c hc

theorem joinPath_empty (name : String) : joinPath "" name = bareName name := rfl

theorem joinPath_of_ne {base : String} (h : base ≠ "") (name : String) :
    joinPath base name = base ++ "/" ++ bareName name :=
  if_neg h

/-- The path made of some names: those in front that are nothing but slashes are left out. -/
def pathOf (names : List String) : String :=
  Text.join "/" ((names.map bareName).dropWhile (· = ""))

/-- One name more. -/
theorem pathOf_concat (names : List String) (name : String) :
    pathOf (names ++ [name]) = joinPath (pathOf names) name := by
  unfold pathOf Text.join
  rw [List.map_append, List.dropWhile_append]
  cases hkept : (names.map bareName).dropWhile (· = "") with
  | nil =>
    rw [String.intercalate_nil, joinPath_empty]
    by_cases hbare : bareName name = ""
    · simp [hbare]
    · simp [hbare]
  | cons bare rest =>
    have hhead := List.head?_dropWhile_not (fun s : String => decide (s = "")) (names.map bareName)
    have hbare : bare ≠ "" := by simpa [hkept] using hhead
    have hpath : String.intercalate "/" (bare :: rest) ≠ "" := by
      rw [Ne, ← String.toList_eq_nil_iff] at hbare ⊢
      cases rest <;> simp [hbare]
    rw [joinPath_of_ne hpath, List.isEmpty_cons, if_neg Bool.false_ne_true,
      String.intercalate_append_of_ne_nil (by simp) (by simp), List.map_singleton,
      String.intercalate_singleton]

/-- Names are put behind a slash only where a path is there already. -/
theorem head?_joinPath {base : String} (h : ∀ c ∈ base.toList.head?, c ≠ '/') (name : String) :
    ∀ c ∈ (joinPath base name).toList.head?, c ≠ '/' := by
  by_cases hbase : base = ""
  · rw [hbase, joinPath_empty]
    exact (isBare_bareName name).first
  · rw [joinPath_of_ne hbase, String.append_assoc, String.toList_append,
      List.head?_append_of_ne_nil _ (String.toList_eq_nil_iff.not.mpr hbase)]
    exact h

/-! ## Places -/

/-- Where a chain of steps can stand. -/
inductive Place where
  | client (c : Client)
  | space (n : Namespace)
  | collection (c : Collection)
  | resource (r : Resource)
  | action (a : Action)

namespace Place

/-- The path of a place; a client stands at the root. -/
def path : Place → String
  | .client _ => ""
  | .space n => n.path
  | .collection c => c.path
  | .resource r => r.path
  | .action a => a.path

/-- The page size that is handed on from a place. -/
def pageSize? : Place → Option Nat
  | .client c => some c.settings.pageSize
  | .space n => some n.pageSize
  | .collection c => some c.pageSize
  | .resource r => some r.pageSize
  | .action _ => none

/-- The steps there are, with the name that each of them is given. -/
inductive Leads : Place → String → Place → Prop
  | clientSpace (c : Client) (name : String) : Leads (.client c) name (.space (c.namespaceAt name))
  | clientCollection (c : Client) (name : String) :
    Leads (.client c) name (.collection (c.collection name))
  | spaceSpace (n : Namespace) (name : String) : Leads (.space n) name (.space (n.namespaceAt name))
  | spaceCollection (n : Namespace) (name : String) :
    Leads (.space n) name (.collection (n.collection name))
  | collectionResource (c : Collection) (id : String) :
    Leads (.collection c) id (.resource (c.resource id))
  | collectionAction (c : Collection) (name : String) :
    Leads (.collection c) name (.action (c.action name))
  | resourceAction (r : Resource) (name : String) :
    Leads (.resource r) name (.action (r.action name))
  | resourceCollection (r : Resource) (name : String) :
    Leads (.resource r) name (.collection (r.collection name))

/-- The views that are taken from a place. -/
inductive Gives : Place → View → Prop
  | view (c : Collection) : Gives (.collection c) c.view
  | filter (c : Collection) (expr : Filter.Expr) : Gives (.collection c) (c.filter expr)
  | filterBy {c : Collection} {lookups : List (String × Filter.Value)} {v : View}
      (h : c.filterBy lookups = .ok v) : Gives (.collection c) v

/-- The changes that are asked for at a place. -/
inductive Changes : Place → Mutation → Prop
  | create (c : Collection) (payload : Json) : Changes (.collection c) (c.create payload)
  | update (r : Resource) (payload : Json) : Changes (.resource r) (r.update payload)
  | replace (r : Resource) (payload : Json) : Changes (.resource r) (r.replace payload)
  | delete (r : Resource) : Changes (.resource r) r.delete
  | call (a : Action) (payload : Option Json) : Changes (.action a) (a.call payload)

variable {p p' : Place} {name : String}

/-- A step appends its name. -/
theorem Leads.path_eq (h : p.Leads name p') : p'.path = joinPath p.path name := by
  cases h with
  | clientCollection c name =>
    -- the collection belongs to a namespace without a name
    have hroot : joinPath "" "" = "" := by decide
    exact congrArg (joinPath · name) hroot
  | clientSpace => rfl
  | spaceSpace => rfl
  | spaceCollection => rfl
  | collectionResource => rfl
  | collectionAction => rfl
  | resourceAction => rfl
  | resourceCollection => rfl

/-- A step hands on the page size, or ends at an action. -/
theorem Leads.pageSize?_eq (h : p.Leads name p') :
    p'.pageSize? = p.pageSize? ∨ p'.pageSize? = none := by
  cases h with
  | clientSpace => exact .inl rfl
  | clientCollection => exact .inl rfl
  | spaceSpace => exact .inl rfl
  | spaceCollection => exact .inl rfl
  | collectionResource => exact .inl rfl
  | collectionAction => exact .inr rfl
  | resourceAction => exact .inr rfl
  | resourceCollection => exact .inl rfl

theorem Gives.path_eq {v : View} (h : p.Gives v) : v.path = p.path := by
  cases h with
  | view c => rfl
  | filter c expr => rfl
  | filterBy h =>
    obtain ⟨e, -, rfl⟩ := View.withLookups_eq_ok_iff.mp h
    rfl

theorem Gives.pageSize_eq {v : View} (h : p.Gives v) :
    ∃ size ∈ p.pageSize?, v.pageSize = max size 1 := by
  cases h with
  | view c => exact ⟨c.pageSize, rfl, rfl⟩
  | filter c expr => exact ⟨c.pageSize, rfl, rfl⟩
  | @filterBy c _ _ h =>
    obtain ⟨e, -, rfl⟩ := View.withLookups_eq_ok_iff.mp h
    exact ⟨c.pageSize, rfl, rfl⟩

theorem Changes.path_eq {m : Mutation} (h : p.Changes m) : m.path = p.path := by
  cases h <;> rfl

end Place

/-! ## Chains -/

/-- A chain of steps from the client, by their names, leads to a place. -/
inductive Client.Reaches (c : Client) : List String → Place → Prop
  | start : Reaches c [] (.client c)
  | step {names : List String} {p p' : Place} {name : String} (h : Reaches c names p)
      (hstep : p.Leads name p') : Reaches c (names ++ [name]) p'

namespace Client.Reaches

variable {c : Client} {names : List String} {p : Place}

theorem path_eq (h : c.Reaches names p) : p.path = pathOf names := by
  induction h with
  | start => rfl
  | step _ hstep ih => rw [hstep.path_eq, ih, pathOf_concat]

/-- A path does not begin with a slash. -/
theorem head?_path (h : c.Reaches names p) : ∀ ch ∈ p.path.toList.head?, ch ≠ '/' := by
  induction h with
  | start => nofun
  | step _ hstep ih =>
    rw [hstep.path_eq]
    exact head?_joinPath ih _

/-- The page size of the settings is handed on to all places but actions. -/
theorem pageSize?_eq (h : c.Reaches names p) :
    p.pageSize? = some c.settings.pageSize ∨ p.pageSize? = none := by
  induction h with
  | start => exact .inl rfl
  | step _ hstep ih =>
    obtain hsame | hnone := hstep.pageSize?_eq
    · rwa [hsame]
    · exact .inr hnone

theorem pageSize_of_gives (h : c.Reaches names p) {v : View} (hgives : p.Gives v) :
    v.pageSize = max 1 c.settings.pageSize := by
  obtain ⟨size, hsize, hv⟩ := hgives.pageSize_eq
  obtain hsettings | hnone := h.pageSize?_eq
  · rw [hsettings] at hsize
    rw [hv, ← Option.some.inj hsize, Nat.max_comm]
  · rw [hnone] at hsize
    contradiction

end Client.Reaches

/-! ## Addresses -/

namespace Http.Link

variable {link : Link}

/-- The end of the address of a view: the query behind a question mark, if there is one. -/
def queryText (v : View) : String :=
  if v.query = "" then "" else "?" ++ v.query

/-- The endpoint of a link is the one in the settings, without the slashes at its end. -/
theorem endpoint_of_ofSettings {s : Settings} (h : ofSettings s = .ok link) :
    (∃ behind, s.endpoint.toList = link.endpoint.toList ++ List.replicate behind '/') ∧
      ∀ c ∈ link.endpoint.toList.getLast?, c ≠ '/' := by
  unfold ofSettings at h
  split at h
  · obtain rfl := Except.ok.inj h
    rw [String.toList_ofList]
    exact ⟨Text.exists_append_replicate '/' _, fun c hc => by
      simpa using Text.getLast?_dropEndWhile c hc⟩
  · contradiction

theorem url_of_head? {path : String} (h : ∀ c ∈ path.toList.head?, c ≠ '/') :
    link.url path = link.endpoint ++ "/" ++ path := by
  rw [url, Text.dropWhile_eq_self (fun c hc => by simpa using h c hc), String.ofList_toList]

theorem url_view {v : View} (h : ∀ c ∈ v.path.toList.head?, c ≠ '/') :
    link.url v.url = link.endpoint ++ "/" ++ v.path ++ queryText v := by
  have hhead : ∀ c ∈ v.url.toList.head?, c ≠ '/' := by
    rw [View.url]
    split
    · exact h
    · cases hpath : v.path.toList with
      | nil => simp [hpath]
      | cons c rest =>
        rw [hpath] at h
        simpa [hpath] using h
  rw [url_of_head? hhead, View.url, queryText]
  split
  · rw [String.append_empty]
  · simp only [String.append_assoc]

end Http.Link

/-- What is read through a view over HTTP is asked for at its address: the endpoint, a slash, the
path and the query text. -/
theorem View.log_channelAfter {π : Type} {link : Http.Link} (peer : Http.Peer π) {v : View}
    (h : ∀ c ∈ v.path.toList.head?, c ≠ '/') (ops : List Operation) (memo : Memo)
    (state : π) (log : List Http.Request) :
    let ch := v.channelAfter (link.server peer.logging) ops ⟨memo, Session.start (state, log)⟩
    ch.session.state.2 = log ++ ch.session.fetches.flatMap fun f =>
      Http.sentOf (link.pageRequest (link.endpoint ++ "/" ++ v.path ++ Http.Link.queryText v) f) := by
  intro ch
  obtain ⟨requests, hfollows, hurl⟩ := v.asksAt_channelAfter (link.server peer.logging) ops
    ⟨memo, Session.start (state, log)⟩
  have hfetches : ch.session.fetches = requests := hfollows.fetches
  rw [hfollows.state, Http.Link.log_afterAll, hfetches, ← Http.Link.url_view h]
  refine congrArg (log ++ ·) (List.flatMap_congr fun f hf => ?_)
  rw [hurl f hf]

/-- A chain of fluent steps from a client, by namespaces, collections, resources and actions, leads
to the path that its names make: without the slashes at their ends, those in front that are nothing
else left out, and with a slash between every two.  The path never begins with a slash.  Views that
are taken there have this path and the page size of the settings, but at least one, and changes are
asked for at this path.  Over HTTP the endpoint of the settings, without slashes at its end, comes
in front, with one slash behind it: whatever is read through a view of this path, the requests sent
are those for this address with the query text of the view, if there is any, and a change is sent to
this address as it is. -/
theorem fluent_paths_compose {π : Type} {c : Client} {names : List String} {p : Place}
    (h : c.Reaches names p) (peer : Http.Peer π) :
    (∀ name ∈ names, IsBare (bareName name) name) ∧
    p.path = Text.join "/" ((names.map bareName).dropWhile (· = "")) ∧
    (∀ ch ∈ p.path.toList.head?, ch ≠ '/') ∧
    (∀ v, p.Gives v → v.path = p.path ∧ v.pageSize = max 1 c.settings.pageSize) ∧
    (∀ m, p.Changes m → m.path = p.path) ∧
    ∀ link, Http.Link.ofSettings c.settings = .ok link →
      (∃ behind,
        c.settings.endpoint.toList = link.endpoint.toList ++ List.replicate behind '/') ∧
      (∀ ch ∈ link.endpoint.toList.getLast?, ch ≠ '/') ∧
      (∀ (v : View) (ops : List Operation) (memo : Memo) (state : π) (log : List Http.Request),
        v.path = p.path →
        let ch := v.channelAfter (link.server peer.logging) ops ⟨memo, Session.start (state, log)⟩
        ch.session.state.2 = log ++ ch.session.fetches.flatMap fun f =>
          Http.sentOf (link.pageRequest
            (link.endpoint ++ "/" ++ p.path ++ if v.query = "" then "" else "?" ++ v.query) f)) ∧
      ∀ (m : Mutation) (state : π) (log : List Http.Request), p.Changes m →
        ((link.server peer.logging).mutate m (state, log)).2.2 =
          log ++ Http.sentOf (link.changeRequest (link.endpoint ++ "/" ++ p.path) m) := by
  have hhead := h.head?_path
  refine ⟨fun name _ => isBare_bareName name, h.path_eq, hhead,
    fun v hv => ⟨hv.path_eq, h.pageSize_of_gives hv⟩, fun m hm => hm.path_eq, fun link hlink => ?_⟩
  obtain ⟨hslashes, hlast⟩ := Http.Link.endpoint_of_ofSettings hlink
  refine ⟨hslashes, hlast, fun v ops memo state log hpath => ?_, fun m state log hm => ?_⟩
  · rw [← hpath] at hhead ⊢
    exact v.log_channelAfter peer hhead ops memo state log
  · rw [Http.Link.log_mutate, hm.path_eq, Http.Link.url_of_head? hhead]

/-- Steps with a name of slashes alone in front and an empty one in between.  The endpoint ends with
two slashes, and the page size that is set is zero. -/
theorem fluent_paths_compose_items :
    let settings : Settings := ⟨"http://[::1]:8000/x//", 30, 0, []⟩
    let link : Http.Link := ⟨"http://[::1]:8000/x", []⟩
    let c : Client := ⟨settings⟩
    let names := ["//", "/api/", "", "orders", "42", "items"]
    let orders := (((c.namespaceAt "//").namespaceAt "/api/").namespaceAt "").collection "orders"
    let items := (orders.resource "42").collection "items"
    let v := items.filter (.raw "eq(a,1)")
    let server := link.server Http.Peer.unreachable.logging
    c.Reaches names (.collection items) ∧ Http.Link.ofSettings settings = .ok link ∧
      items.path = "api//orders/42/items" ∧ v.path = items.path ∧ v.pageSize = 1 ∧
      (v.channelAfter server [.count] ⟨.blank, Session.start ((), [])⟩).session.state.2 =
        [⟨"GET", "http://[::1]:8000/x/api//orders/42/items?eq(a,1)&limit=0&offset=0", [], none⟩] ∧
      (server.mutate (items.create .null) ((), [])).2.2 =
        [⟨"POST", "http://[::1]:8000/x/api//orders/42/items",
          [("content-type", "application/json")], some "null"⟩] := by
  intro settings link c names orders items v server
  have hreaches : c.Reaches names (.collection items) :=
    .step (.step (.step (.step (.step (.step .start (.clientSpace c "//"))
      (.spaceSpace _ "/api/")) (.spaceSpace _ "")) (.spaceCollection _ "orders"))
      (.collectionResource orders "42")) (.resourceCollection _ "items")
  have hlink : Http.Link.ofSettings settings = .ok link := by decide +kernel
  have hv : (Place.collection items).Gives v := .filter items _
  obtain ⟨-, hpath, -, hviews, -, hhttp⟩ :=
    fluent_paths_compose hreaches Http.Peer.unreachable
  obtain ⟨-, -, hread, hchange⟩ := hhttp link hlink
  obtain ⟨hviewPath, hviewSize⟩ := hviews v hv
  refine ⟨hreaches, hlink, hpath.trans (by decide +kernel), hviewPath, hviewSize, ?_, ?_⟩
  · rw [hread v [.count] .blank () [] hviewPath]
    decide +kernel
  · rw [hchange _ () [] (.create items .null)]
    decide +kernel

end PagedQuery
