import PagedQuery.Http.Link
import PagedQuery.Proofs.Url.Query
import PagedQuery.View.Build
import PagedQuery.View.Request

/-!
# PagedQuery.Proofs.Http.Target

What of the query of a view reaches a server over HTTP.  The query is written into the address as it
is, so that reading the address decides what becomes of it: what is delivered of the query is sent
percent-encoded, and behind it come the limit, the offset and the search term (`page_query_sent`).
-/

namespace PagedQuery.Http

open Url (percentEncode percentDecode keepInQuery formEncode formPairs delivered IsDeliverable)

/-! ## The requests that are sent -/

/-- The other end of a connection that keeps the requests it gets, in order. -/
def recorder (answer : Request → Option Response) : Peer (List Request) where
  exchange request log := (answer request, log ++ [request])

namespace Link

variable {π α : Type} {link : Link}

/-- The request for a page at an address as it is written. -/
def pageRequest (link : Link) (url : String) (f : Fetch) : Except NoResponse (Url × Request) :=
  link.request "GET" url (some f.params) none

/-- The request for a change at an address as it is written. -/
def changeRequest (link : Link) (url : String) (m : Mutation) :
    Except NoResponse (Url × Request) :=
  link.request m.verb.name url none m.payload

/-- Sends a request and reads something from the response. -/
def ask (peer : Peer π) (r : Except NoResponse (Url × Request))
    (read : Response → Except ClientError α) (state : π) : Except ClientError α × π :=
  let sent := send peer r state
  (sent.1.bind read, sent.2)

theorem fetch_eq_ask (peer : Peer π) (f : Fetch) (state : π) :
    (link.server peer).fetch f state =
      ask peer (link.pageRequest (link.url f.url) f) (pageOf (link.url f.url)) state := by
  simp only [server, ask, pageRequest]
  obtain ⟨_ | _, _⟩ :=
    send peer (link.request "GET" (link.url f.url) (some f.params) none) state <;> rfl

theorem mutate_eq_ask (peer : Peer π) (m : Mutation) (state : π) :
    (link.server peer).mutate m state =
      ask peer (link.changeRequest (link.url m.path) m) replyOf state := by
  simp only [server, ask, changeRequest]
  obtain ⟨_ | _, _⟩ :=
    send peer (link.request m.verb.name (link.url m.path) none m.payload) state <;> rfl

theorem state_ask (peer : Peer π) (r : Except NoResponse (Url × Request))
    (read : Response → Except ClientError α) (state : π) :
    (ask peer r read state).2 = (send peer r state).2 :=
  rfl

/-- Whatever is answered, sending a request is one exchange. -/
theorem state_send (peer : Peer π) (address : Url) (request : Request) (state : π) :
    (send peer (.ok (address, request)) state).2 = (peer.exchange request state).2 := by
  simp only [send]
  obtain ⟨_ | response, state'⟩ := peer.exchange request state
  · rfl
  · simp only
    split <;> rfl

/-- A page is asked for by no other request than the one for its address. -/
theorem request_of_mem_fetch {answer : Request → Option Response} {f : Fetch} {sent : Request}
    (h : sent ∈ ((link.server (recorder answer)).fetch f []).2) :
    ∃ address, link.pageRequest (link.url f.url) f = .ok (address, sent) := by
  rw [fetch_eq_ask, state_ask] at h
  cases hrequest : link.pageRequest (link.url f.url) f with
  | error problem =>
    rw [hrequest] at h
    contradiction
  | ok result =>
    obtain ⟨address, request⟩ := result
    rw [hrequest, state_send] at h
    rw [List.mem_singleton.mp h]
    exact ⟨address, rfl⟩

/-- The address of a request for a page is the one that is read, with the parameters. -/
theorem request_eq_ok {method url : String} {params : List (String × String)}
    {payload : Option Json} {address : Url} {request : Request}
    (h : link.request method url (some params) payload = .ok (address, request)) :
    ∃ u, Url.ofText? url = some u ∧ address = u.dropUser.addParams params ∧
      address.isHttp = true ∧ request.target = String.ofList address.target := by
  unfold Link.request at h
  cases hread : Url.ofText? url with
  | none =>
    simp only [hread] at h
    cases h
  | some u =>
    simp only [hread] at h
    split at h
    · cases h
    · split at h
      · next hhttp =>
        cases h
        exact ⟨u, rfl, rfl, hhttp, rfl⟩
      · cases h

/-! ## Their addresses -/

/-- Neither a question mark nor a number sign stands in the text. -/
structure HasNoMarks (text : String) : Prop where
  query : '?' ∉ text.toList
  fragment : '#' ∉ text.toList

/-- The address of a page is put together of a front and the query of the view. -/
theorem url_eq (hlink : HasNoMarks link.endpoint) {v : View} (hpath : HasNoMarks v.path)
    (hquery : v.query ≠ "") :
    ∃ front, '?' ∉ front ∧ '#' ∉ front ∧
      link.url v.url = String.ofList (front ++ '?' :: v.query.toList) := by
  have hslash : ('?' == '/') = false := by decide
  have hdrop : ∀ {c : Char}, c ∉ v.path.toList → c ∉ v.path.toList.dropWhile (· == '/') :=
    fun hc hmem => hc ((List.dropWhile_sublist _).subset hmem)
  refine ⟨link.endpoint.toList ++ '/' :: v.path.toList.dropWhile (· == '/'), ?_, ?_, ?_⟩
  · simp [hlink.query, hdrop hpath.query]
  · simp [hlink.fragment, hdrop hpath.fragment]
  · rw [← String.toList_inj]
    simp [url, View.url, hquery, Text.dropWhile_append_mark (p := (· == '/')) hslash]

end Link

/-! ## Behind the query -/

/-- The limit and the offset of a page, as parameters. -/
def pageText (limit offset : Nat) : String :=
  "limit=" ++ toString limit ++ "&offset=" ++ toString offset

/-- The parameter for a search term, behind others. -/
def searchText (search : Option String) : List Char :=
  match search with
  | none => []
  | some term => "&search=".toList ++ formEncode term

theorem formEncode_repr (n : Nat) : formEncode n.repr = Nat.toDigits 10 n := by
  rw [Url.formEncode_of_kept, Nat.toList_repr]
  rw [Nat.toList_repr, List.all_eq_true]
  intro c hc
  simp [Url.keepInForm, Char.isAlphanum, Text.isDigit_of_mem_decimal hc]

theorem intercalate_formPairs (v : View) (limit offset : Nat) :
    ['&'].intercalate (formPairs (v.params limit offset)) =
      (pageText limit offset).toList ++ searchText v.search := by
  have hlimit : formEncode "limit" = "limit".toList := Url.formEncode_of_kept (by decide)
  have hoffset : formEncode "offset" = "offset".toList := Url.formEncode_of_kept (by decide)
  have hsearch : formEncode "search" = "search".toList := Url.formEncode_of_kept (by decide)
  unfold View.params formPairs pageText searchText
  cases v.search <;>
    simp [hlimit, hoffset, hsearch, formEncode_repr, List.intercalate_cons_cons]

theorem percent_not_mem_pageText (limit offset : Nat) : '%' ∉ (pageText limit offset).toList := by
  have hdigits : ∀ n, '%' ∉ Nat.toDigits 10 n := Text.not_mem_decimal rfl
  simp [pageText, hdigits]

/-- A query with its separator, as it is sent in front of the parameters. -/
def sentQuery (query : List Char) : List Char :=
  if query = [] then [] else percentEncode (keepInQuery true) query ++ ['&']

/-- Parameters are put behind the query there is. -/
theorem query_addParams {u : Url} {query : List Char}
    (hquery : u.query = some (percentEncode (keepInQuery true) query)) (v : View)
    (limit offset : Nat) :
    (u.addParams (v.params limit offset)).query =
      some (sentQuery query ++ (pageText limit offset).toList ++ searchText v.search) := by
  have hparams : formPairs (v.params limit offset) ≠ [] := by simp [formPairs, View.params]
  simp only [Url.addParams, hquery, Option.toList_some, sentQuery, List.append_assoc,
    ← intercalate_formPairs]
  by_cases hempty : query = []
  · subst hempty
    simpa [percentEncode] using hparams
  · have hfilled : percentEncode (keepInQuery true) query ≠ [] :=
      Url.percentEncode_eq_nil_iff.not.mpr hempty
    obtain ⟨p, ps, hps⟩ := List.exists_cons_of_ne_nil hparams
    simp [hempty, hfilled, hps, List.intercalate_cons_cons]

/-- What is decoded behind a query without percent signs that is sent whole. -/
theorem percentDecode_sentQuery {query : List Char} (hfilled : query ≠ []) (hplain : '%' ∉ query)
    (limit offset : Nat) (rest : List Char) :
    percentDecode (sentQuery query ++ (pageText limit offset).toList ++ rest) =
      (query ++ '&' :: (pageText limit offset).toList).flatMap String.utf8EncodeChar ++
        percentDecode rest := by
  have hpage : '%' ∉ '&' :: (pageText limit offset).toList := by
    simp [percent_not_mem_pageText]
  rw [sentQuery, if_neg hfilled, List.append_assoc, List.append_assoc, List.singleton_append,
    Url.percentDecode_percentEncode hplain, ← List.cons_append, Url.percentDecode_of_plain hpage,
    List.flatMap_append, List.append_assoc]

/-- What stands behind the first question mark of a request for a page.  It is what is delivered of
the query of the view, percent-encoded, then the limit and the offset, and the search term if there
is one.  So a query that is deliverable and has no percent signs is what the bytes decoded of it
begin with; of any other query a part is lost. -/
theorem page_query_sent (link : Link) (v : View) (hlink : Link.HasNoMarks link.endpoint)
    (hpath : Link.HasNoMarks v.path) (hquery : v.query ≠ "")
    (answer : Request → Option Response) (limit offset : Nat) :
    let query := v.query.toList
    (delivered query = query ↔ IsDeliverable query) ∧
      ∀ sent ∈ ((link.server (recorder answer)).fetch ⟨v.url, v.params limit offset⟩ []).2,
        ∃ front behind, '?' ∉ front ∧ sent.target.toList = front ++ '?' :: behind ∧
          behind = sentQuery (delivered query) ++ (pageText limit offset).toList ++
            searchText v.search ∧
          (IsDeliverable query → '%' ∉ query → percentDecode behind =
            (query ++ '&' :: (pageText limit offset).toList).flatMap String.utf8EncodeChar ++
              percentDecode (searchText v.search)) := by
  intro query
  refine ⟨Url.delivered_eq_self_iff, fun sent hsent => ?_⟩
  obtain ⟨address, hrequest⟩ := Link.request_of_mem_fetch hsent
  obtain ⟨u, hread, haddress, hhttp, htarget⟩ := Link.request_eq_ok hrequest
  obtain ⟨front, hfront, hfront', hurl⟩ := Link.url_eq hlink hpath hquery
  obtain ⟨port, hport⟩ := Url.exists_usualPort_of_isHttp hhttp
  have hscheme : u.scheme = address.scheme := by rw [haddress]; rfl
  rw [← hscheme] at hport
  have hspecial : Url.isSpecial u.scheme = true := by rw [Url.isSpecial, hport]; rfl
  have hdelivered := Url.query_of_ofText? hfront hfront' (hurl ▸ hread)
  rw [hspecial] at hdelivered
  have hbehind : address.query = some (sentQuery (delivered query) ++
      (pageText limit offset).toList ++ searchText v.search) := by
    rw [haddress]
    exact query_addParams hdelivered v limit offset
  have hunmarked : address.IsUnmarked := by
    rw [haddress]
    exact (Url.isUnmarked_of_ofText? hread hport).dropUser.addParams _
  obtain ⟨start, hstart, hsent⟩ := hunmarked.target_eq hbehind
  refine ⟨start, _, hstart, by rw [htarget, String.toList_ofList, hsent], rfl, ?_⟩
  intro hdeliverable hplain
  rw [Url.delivered_eq_self_iff.mpr hdeliverable]
  exact percentDecode_sentQuery (String.toList_eq_nil_iff.not.mpr hquery) hplain limit offset _

/-- A query with a space, and a search term. -/
theorem page_query_sent_items :
    let link : Link := ⟨"http://[::1]:8000/api/v1", [("accept", "application/json")]⟩
    let v := ((View.ofPath "items").withFilter (.raw "eq(name,ann lee)")).searching "a b"
    let sent : Request :=
      ⟨"GET", "http://[::1]:8000/api/v1/items?eq(name,ann%20lee)&limit=2&offset=4&search=a+b",
        [("accept", "application/json")], none⟩
    ((link.server (recorder fun _ => none)).fetch ⟨v.url, v.params 2 4⟩ []).2 = [sent] ∧
      ∃ front behind, '?' ∉ front ∧ sent.target.toList = front ++ '?' :: behind ∧
        percentDecode behind =
          "eq(name,ann lee)&limit=2&offset=4".toList.flatMap String.utf8EncodeChar ++
            percentDecode "&search=a+b".toList := by
  intro link v sent
  have hlink : Link.HasNoMarks link.endpoint := ⟨by decide, by decide⟩
  have hpath : Link.HasNoMarks v.path := ⟨by decide +kernel, by decide +kernel⟩
  have hquery : v.query = "eq(name,ann lee)" := by decide +kernel
  have hsent : ((link.server (recorder fun _ => none)).fetch ⟨v.url, v.params 2 4⟩ []).2 =
      [sent] := by decide +kernel
  obtain ⟨-, hrequests⟩ := page_query_sent link v hlink hpath (by rw [hquery]; decide)
    (fun _ => none) 2 4
  obtain ⟨front, behind, hfront, htarget, -, hdecoded⟩ := hrequests sent (by rw [hsent]; simp)
  refine ⟨hsent, front, behind, hfront, htarget, ?_⟩
  have hdeliverable : IsDeliverable v.query.toList := by
    rw [← Url.delivered_eq_self_iff, hquery]
    decide +kernel
  rw [hdecoded hdeliverable (by rw [hquery]; decide), hquery]
  decide +kernel

/-- A comparison with a text that has a number sign.  From there on the query is lost, the brackets
that close it included. -/
theorem page_query_cut_at_number_sign :
    let link : Link := ⟨"http://[::1]:8000", []⟩
    let v := (View.ofPath "items").withFilter (.raw "eq(name,a#b)")
    let behind := "eq(name,a&limit=1&offset=0".toList
    (Filter.Field.root.child "name").compare .eq (.text "a#b") = .ok (.raw "eq(name,a#b)") ∧
      v.query = "eq(name,a#b)" ∧ '%' ∉ v.query.toList ∧
      ((link.server (recorder fun _ => none)).fetch ⟨v.url, v.params 1 0⟩ []).2.map Request.target =
        [String.ofList ("http://[::1]:8000/items".toList ++ '?' :: behind)] ∧
      ¬ v.query.toList.flatMap String.utf8EncodeChar <+: percentDecode behind := by
  decide +kernel

end PagedQuery.Http
