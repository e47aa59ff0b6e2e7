import PagedQuery.View.Request

/-!
# PagedQuery.Proofs.Reply

One request for a page, in closed form.  What is read out of the answer depends on the answer
alone (`Page.read`); beside that, a request leaves its trace in the session and, if the answer
carries a range, in the memory.  `fetchPage_eq` says that this is all that happens.
-/

namespace PagedQuery

variable {σ : Type}

/-- What is read out of an answer: records with the range that came with them. -/
abbrev Reading := Except ClientError (List Json × Option ContentRange)

/-- The records of a page and its range.  A header that is no range makes the page an error. -/
def Page.read (page : Page) : Reading :=
  match page.contentRange with
  | none => .ok (page.records, none)
  | some header =>
    match ContentRange.ofText? header with
    | some range => .ok (page.records, some range)
    | none => .error (.decode (.range header))

namespace Server

/-- What a request brings when the server is in state `s`. -/
def reply (server : Server σ) (f : Fetch) (s : σ) : Reading :=
  (server.fetch f s).1.bind Page.read

/-- The server's state after a request. -/
def after (server : Server σ) (f : Fetch) (s : σ) : σ :=
  (server.fetch f s).2

theorem reply_of_fetch {server : Server σ} {f : Fetch} {s : σ} {page : Page}
    (h : (server.fetch f s).1 = .ok page) : server.reply f s = page.read := by
  rw [reply, h]
  rfl

end Server

/-- The session after the request `f`, which left the server in `state`. -/
def Session.asked (s : Session σ) (f : Fetch) (state : σ) : Session σ :=
  { s with state := state, fetches := s.fetches ++ [f] }

/-- The memory with the range of an answer, if it carried one. -/
def Memo.noting (m : Memo) : Reading → Memo
  | .ok (_, some range) => { m with range := some range }
  | _ => m

@[simp] theorem Memo.records_noting (m : Memo) (r : Reading) :
    (m.noting r).records = m.records := by
  obtain _ | ⟨_, _ | _⟩ := r <;> rfl

/-- What a request by `fetchPage` does to memory and session. -/
def Channel.asking (ch : Channel σ) (server : Server σ) (f : Fetch) : Channel σ :=
  ⟨ch.memo.noting (server.reply f ch.session.state),
    ch.session.asked f (server.after f ch.session.state)⟩

section Asking

variable (ch : Channel σ) (server : Server σ) (f : Fetch)

@[simp] theorem Channel.fetches_asking :
    (ch.asking server f).session.fetches = ch.session.fetches ++ [f] := rfl

@[simp] theorem Channel.state_asking :
    (ch.asking server f).session.state = server.after f ch.session.state := rfl

@[simp] theorem Channel.records_asking :
    (ch.asking server f).memo.records = ch.memo.records :=
  Memo.records_noting ..

end Asking

/-- A page is asked for by one request, and what it brings is what the answer says. -/
theorem View.fetchPage_eq (v : View) (server : Server σ) (url : String) (limit offset : Nat)
    (ch : Channel σ) :
    v.fetchPage server url limit offset ch =
      (server.reply ⟨url, v.params limit offset⟩ ch.session.state,
        ch.asking server ⟨url, v.params limit offset⟩) := by
  unfold fetchPage Server.askPage Channel.asking Server.reply Server.after Session.asked
  cases hfetch : server.fetch ⟨url, v.params limit offset⟩ ch.session.state with
  | mk answer state =>
    cases answer with
    | error e => rfl
    | ok page =>
      obtain ⟨records, header⟩ := page
      cases header with
      | none => rfl
      | some header =>
        simp only [Except.bind, Page.read, ContentRange.read]
        cases ContentRange.ofText? header <;> rfl

end PagedQuery
