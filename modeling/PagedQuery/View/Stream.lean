import PagedQuery.View.Walk

/-!
# PagedQuery.View.Stream

A view turned into a stream of its records.  The stream owns the memory of the view and a walk
over it, and lets go of both at the end and at the first error.
-/

namespace PagedQuery

structure Stream where
  view : View
  source : Option (Memo × Walk)

namespace Stream

variable {σ : Type}

/-- The stream of a view with what is remembered of it. -/
def ofView (v : View) (memo : Memo) : Stream :=
  ⟨v, some (memo, Walk.start v memo)⟩

/-- The next record or error; none from the end on. -/
def next (s : Stream) (server : Server σ) (session : Session σ) :
    Option (Except ClientError Json) × Stream × Session σ :=
  match s.source with
  | none => (none, s, session)
  | some (memo, walk) =>
    match walk.next s.view server ⟨memo, session⟩ with
    | (.error e, _, ch) => (some (.error e), { s with source := none }, ch.session)
    | (.ok none, _, ch) => (none, { s with source := none }, ch.session)
    | (.ok (some record), walk, ch) =>
      (some (.ok record), { s with source := some (ch.memo, walk) }, ch.session)

/-- Takes up to `n` records. -/
def take (server : Server σ) : Nat → Stream → Session σ →
    List Json × Walk.Ending × Stream × Session σ
  | 0, s, session => ([], .taken, s, session)
  | n + 1, s, session =>
    match s.next server session with
    | (none, s, session) => ([], .finished, s, session)
    | (some (.error e), s, session) => ([], .failed e, s, session)
    | (some (.ok record), s, session) =>
      let (records, ending, s, session) := take server n s session
      (record :: records, ending, s, session)

end Stream

end PagedQuery
