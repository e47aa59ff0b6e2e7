import PagedQuery.Proofs.Http.Target

/-!
# PagedQuery.Proofs.Http.Outcome

What a request over HTTP results in.  Sending it gives a final response or the reason why there is
none (`Link.received`), and this decides the result (`Link.settle`): a response with a status from
400 to 599 is an error with its body as text, whatever its headers, and every other response carries
a page or a reply, or cannot be understood (`response_decides_outcome`).
-/

namespace PagedQuery.Http

variable {π α : Type}

/-! ## What a response carries -/

/-- Text of visible ASCII, spaces and tabs. -/
def IsHeaderText (value : String) : Prop :=
  ∀ c ∈ value.toList, c = '\t' ∨ 0x20 ≤ c.toNat ∧ c.toNat < 0x7F

theorem isReadable_iff {value : String} : isReadable value = true ↔ IsHeaderText value := by
  simp [isReadable, IsHeaderText]

namespace Response

variable {response : Response}

/-- The status says that the request failed. -/
def IsFailure (response : Response) : Prop :=
  400 ≤ response.status ∧ response.status < 600
deriving Decidable

/-- The body as text. -/
def text (response : Response) : String :=
  String.ofList (Text.decodeLossy response.content)

/-- The range of the page is left out, or is text. -/
def HasRangeText (response : Response) : Prop :=
  ∀ header, response.header? "content-range" = some header → IsHeaderText header

/-- The type of the body is text in which JSON is named. -/
def IsJson (response : Response) : Prop :=
  ∃ value, response.header? "content-type" = some value ∧ IsHeaderText value ∧
    "json".toList <:+: value.toList

/-- A body that is an array holds the records of a page, in order. -/
structure CarriesPage (response : Response) (page : Page) : Prop where
  rangeText : response.HasRangeText
  records : Link.document? response.content = some (.array page.records)
  contentRange : page.contentRange = response.header? "content-range"

/-- What a response to a change carries: a body that is not empty is a value if it is JSON by its
type, and else bytes. -/
def Carries (response : Response) : Reply → Prop
  | .empty => response.content = []
  | .json value =>
    response.content ≠ [] ∧ response.IsJson ∧ Link.document? response.content = some value
  | .bytes content => response.content ≠ [] ∧ ¬ response.IsJson ∧ content = response.content

/-- Nothing is carried by a body alone that is JSON by its type and no JSON document. -/
theorem not_carries_iff :
    (∀ reply, ¬ response.Carries reply) ↔
      response.content ≠ [] ∧ response.IsJson ∧ Link.document? response.content = none := by
  constructor
  · intro h
    have hempty : response.content ≠ [] := h .empty
    have hjson : response.IsJson := by
      by_contra hbytes
      exact h (.bytes response.content) ⟨hempty, hbytes, rfl⟩
    refine ⟨hempty, hjson, Option.eq_none_iff_forall_ne_some.mpr fun value hvalue => ?_⟩
    exact h (.json value) ⟨hempty, hjson, hvalue⟩
  · rintro ⟨hempty, hjson, hdocument⟩ reply
    cases reply <;> simp [Carries, hempty, hjson, hdocument]

theorem saysJson_iff : Link.saysJson response = true ↔ response.IsJson := by
  simp only [Link.saysJson, IsJson, Option.any_eq_true, Bool.and_eq_true, isReadable_iff,
    String.contains_string_iff]

theorem hasRangeText_iff :
    (response.header? "content-range").any (fun header => !isReadable header) = false ↔
      response.HasRangeText := by
  cases hrange : response.header? "content-range" with
  | none => simp [HasRangeText, hrange]
  | some header => simp [HasRangeText, hrange, isReadable_iff]

end Response

/-! ## Reading a response -/

/-- Reading gives the one thing that is carried, or an error about the response if there is none. -/
inductive Reads (carried : α → Prop) : Except ClientError α → Prop where
  | ok {value : α} (h : ∀ other, carried other ↔ value = other) : Reads carried (.ok value)
  | error {problem : BadResponse} (h : ∀ value, ¬ carried value) :
      Reads carried (.error (.decode problem))

namespace Link

theorem reads_pageOf (url : String) (response : Response) :
    Reads response.CarriesPage (pageOf url response) := by
  -- a range that cannot be read hides the body, so that it comes first here too
  by_cases hrange : response.HasRangeText
  · rw [pageOf, Response.hasRangeText_iff.mpr hrange, if_neg Bool.false_ne_true]
    split
    · next records hdocument =>
      refine .ok fun page => ⟨fun hpage => ?_, fun hpage => hpage ▸ ⟨hrange, hdocument, rfl⟩⟩
      obtain ⟨found, range⟩ := page
      cases hdocument.symm.trans hpage.records
      cases hpage.contentRange
      rfl
    · next found hnoArray hdocument =>
      refine .error fun page hpage => hnoArray page.records ?_
      exact Option.some.inj (hdocument.symm.trans hpage.records)
    · next hdocument =>
      refine .error fun page hpage => ?_
      rw [hpage.records] at hdocument
      contradiction
  · have hunread := Bool.of_not_eq_false (Response.hasRangeText_iff.not.mpr hrange)
    rw [pageOf, if_pos hunread]
    exact .error fun page hpage => hrange hpage.rangeText

theorem reads_replyOf (response : Response) : Reads response.Carries (replyOf response) := by
  rw [replyOf]
  by_cases hempty : response.content = []
  · rw [if_pos (List.isEmpty_iff.mpr hempty)]
    refine .ok fun reply => ?_
    cases reply <;> simp [Response.Carries, hempty]
  · rw [if_neg (List.isEmpty_iff.not.mpr hempty)]
    by_cases hjson : response.IsJson
    · rw [if_pos (Response.saysJson_iff.mpr hjson)]
      split
      · next value hdocument =>
        refine .ok fun reply => ?_
        cases reply <;> simp [Response.Carries, hempty, hjson, hdocument]
      · next hdocument =>
        refine .error fun reply => ?_
        cases reply <;> simp [Response.Carries, hempty, hjson, hdocument]
    · rw [if_neg (Response.saysJson_iff.not.mpr hjson)]
      refine .ok fun reply => ?_
      cases reply <;> simp [Response.Carries, hempty, hjson, eq_comm]

/-! ## What is received -/

/-- The response to a request, or why there is none. -/
def received (peer : Peer π) (r : Except NoResponse (Url × Request)) (state : π) :
    Except NoResponse Response :=
  match r with
  | .error problem => .error problem
  | .ok (address, request) =>
    match (peer.exchange request state).1 with
    | some response => .ok response
    | none => .error (.unanswered address.text)

/-- What becomes of it. -/
def settle (read : Response → Except ClientError α) :
    Except NoResponse Response → Except ClientError α
  | .error problem => .error (.transport problem)
  | .ok response =>
    if response.IsFailure then .error (.remote response.status response.text) else read response

theorem ask_eq_settle (peer : Peer π) (r : Except NoResponse (Url × Request))
    (read : Response → Except ClientError α) (state : π) :
    (ask peer r read state).1 = settle read (received peer r state) := by
  obtain problem | ⟨address, request⟩ := r
  · rfl
  · simp only [ask, send, received]
    obtain ⟨_ | response, state'⟩ := peer.exchange request state
    · rfl
    · by_cases hfailure : response.IsFailure
      · have hstatus : 400 ≤ response.status ∧ response.status < 600 := hfailure
        simp only [settle, if_pos hfailure, if_pos hstatus]
        rfl
      · have hstatus : ¬ (400 ≤ response.status ∧ response.status < 600) := hfailure
        simp only [settle, if_neg hfailure, if_neg hstatus]
        rfl

end Link

/-! ## The outcome of a request -/

/-- How the result of a request follows from what is received. -/
structure Outcome (carries : Response → α → Prop) (received : Except NoResponse Response)
    (result : Except ClientError α) : Prop where
  ok_iff : ∀ value, result = .ok value ↔
    ∃ response, received = .ok response ∧ ¬ response.IsFailure ∧ carries response value
  remote_iff : ∀ status text, result = .error (.remote status text) ↔
    ∃ response, received = .ok response ∧ response.IsFailure ∧
      response.status = status ∧ response.text = text
  decode_iff : (∃ problem, result = .error (.decode problem)) ↔
    ∃ response, received = .ok response ∧ ¬ response.IsFailure ∧
      ∀ value, ¬ carries response value
  transport_iff : ∀ problem, result = .error (.transport problem) ↔ received = .error problem
  isRemote : ∀ e, result = .error e → e.isRemote = true

theorem outcome_settle {carries : Response → α → Prop} {read : Response → Except ClientError α}
    (hread : ∀ response, Reads (carries response) (read response))
    (received : Except NoResponse Response) :
    Outcome carries received (Link.settle read received) := by
  -- the request ends in one of four ways, and each of them settles all the conditions at once
  obtain problem | response := received
  · constructor <;> simp [Link.settle, ClientError.isRemote]
  · by_cases hfailure : response.IsFailure
    · constructor <;> simp [Link.settle, hfailure, ClientError.isRemote]
    · have hsettle : Link.settle read (.ok response) = read response := if_neg hfailure
      rw [hsettle]
      have hreads := hread response
      generalize read response = result at hreads
      cases hreads with
      | ok h => constructor <;> simp [hfailure, h]
      | error h => constructor <;> simp [hfailure, h, ClientError.isRemote]

/-- Over HTTP, the response to a request decides its outcome.  A status from 400 to 599 makes it the
error with this status and the text of the body, and nothing else does.  For any other status, a
page is what the response carries, if its range is text and its body an array; a reply to a change
is nothing, JSON or bytes, by the body and the type of it.  What carries nothing is an error about
the response, and so there is one about the way to the server exactly if there is no response. -/
theorem response_decides_outcome (link : Link) (peer : Peer π) (state : π) :
    (∀ f, Outcome Response.CarriesPage
      (Link.received peer (link.pageRequest (link.url f.url) f) state)
      ((link.server peer).fetch f state).1) ∧
    (∀ m, Outcome Response.Carries
      (Link.received peer (link.changeRequest (link.url m.path) m) state)
      ((link.server peer).mutate m state).1) ∧
    ∀ response : Response, (∀ reply, ¬ response.Carries reply) ↔
      response.content ≠ [] ∧ response.IsJson ∧ Link.document? response.content = none := by
  refine ⟨fun f => ?_, fun m => ?_, fun response => Response.not_carries_iff⟩
  · rw [Link.fetch_eq_ask, Link.ask_eq_settle]
    exact outcome_settle (Link.reads_pageOf _) _
  · rw [Link.mutate_eq_ask, Link.ask_eq_settle]
    exact outcome_settle Link.reads_replyOf _

/-- A status above 599 fails no request, even one for a page. -/
theorem page_of_status_600 :
    let link : Link := ⟨"http://[::1]:8000", []⟩
    let response : Response := ⟨600, [("content-type", "application/json")], "[]".toUTF8.toList⟩
    let peer : Peer Unit := ⟨fun _ state => (some response, state)⟩
    let f : Fetch := ⟨"items", []⟩
    Link.received peer (link.pageRequest (link.url f.url) f) () = .ok response ∧
      400 ≤ response.status ∧ ((link.server peer).fetch f ()).1 = .ok ⟨[], none⟩ := by
  intro link response peer f
  have hmade : (link.pageRequest (link.url f.url) f).isOk := by decide +kernel
  have hreceived :
      Link.received peer (link.pageRequest (link.url f.url) f) () = .ok response := by
    cases hrequest : link.pageRequest (link.url f.url) f with
    | error problem =>
      rw [hrequest] at hmade
      contradiction
    | ok sent => rfl
  refine ⟨hreceived, by decide, ?_⟩
  rw [Link.fetch_eq_ask, Link.ask_eq_settle, (outcome_settle (Link.reads_pageOf _) _).ok_iff]
  have hrange : response.header? "content-range" = none := by decide
  refine ⟨response, hreceived, by decide, ?_, by decide +kernel, hrange.symm⟩
  rw [Response.HasRangeText, hrange]
  exact nofun

end PagedQuery.Http
