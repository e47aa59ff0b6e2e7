import PagedQuery.View.Request

/-!
# PagedQuery.View.Walk

Walks over the records of a view.  A walk hands out one record at a time and asks for a page
when it needs one; a view whose records are all known is walked without asking.  Pages are
added to the memory of the view as they arrive.
-/

namespace PagedQuery

/-- Where a walk stands. -/
inductive Walk.Phase where
  /-- Nothing has been asked yet. -/
  | fresh
  /-- The rest of the latest page, and the range that came with it. -/
  | reading (page : List Json) (range : Option ContentRange)
  /-- The rest of the records that were known from the start. -/
  | replaying (rest : List Json)
  | done
deriving DecidableEq

structure Walk where
  /-- The address asked, the same for all pages. -/
  url : String
  phase : Walk.Phase
  /-- The offset of the next page. -/
  nextOffset : Nat
  /-- The number of records received. -/
  received : Nat
deriving DecidableEq

namespace Walk

variable {σ : Type}

/-- A new walk: over the records known, if they are all there are, else over pages. -/
def start (v : View) (memo : Memo) : Walk where
  url := v.url
  phase := match memo.materialized? with
    | some records => .replaying records
    | none => .fresh
  nextOffset := v.offset
  received := 0

def isDone (w : Walk) : Bool :=
  w.phase == .done

/-- Whether the latest page was, by its own range, the last one. -/
def isAtLastPage (w : Walk) : Bool :=
  match w.phase with
  | .reading _ (some range) => range.isLastPage
  | _ => false

/-- The limit of the next request, or none if there is nothing more to ask for. -/
def nextLimit? (w : Walk) (v : View) : Option Nat :=
  match v.window with
  | some window =>
    let remaining := window.length - w.received
    if remaining = 0 || w.isAtLastPage then none else some (min remaining v.pageSize)
  | none => if w.isAtLastPage then none else some v.pageSize

/-- Ends the walk at the end of the records: those remembered are all there are. -/
def finish (w : Walk) (ch : Channel σ) : Walk × Channel σ :=
  ({ w with phase := .done }, { ch with memo := { ch.memo with complete := true } })

/-- Receives a page with records and hands out the first of them.  Pages of an unbounded view
are a page size apart however many records they bring; a bounded view goes on behind the last
record received.  The offset of the next page is not checked, and wraps around behind the largest
one. -/
def receive (w : Walk) (v : View) (record : Json) (rest : List Json)
    (range : Option ContentRange) (ch : Channel σ) : Walk × Channel σ :=
  let page := record :: rest
  let known := if w.phase = .fresh then [] else ch.memo.records.getD []
  ({ w with
      phase := .reading rest range
      nextOffset := addOffset w.nextOffset (if v.isBounded then page.length else v.pageSize)
      received := w.received + page.length },
    { ch with memo := { ch.memo with records := some (known ++ page) } })

/-- Receives a page without records, which ends the walk.  On the first page it means that
there are none; later it contradicts what was said before. -/
def receiveNone (w : Walk) (range : Option ContentRange) (ch : Channel σ) : Walk × Channel σ :=
  if w.phase = .fresh then
    w.finish { ch with memo := { ch.memo with records := some [] } }
  else w.finish { ch with session := ch.session.warn ⟨w.nextOffset, w.url, range⟩ }

/-- Asks for the next page and hands out its first record.  From the first request on the
records remembered are no longer all there are, until the walk ends. -/
def load (w : Walk) (v : View) (server : Server σ) (limit : Nat) (ch : Channel σ) :
    Except ClientError (Option Json) × Walk × Channel σ :=
  let ch := if w.phase = .fresh then { ch with memo := { ch.memo with complete := false } } else ch
  match v.fetchPage server w.url limit w.nextOffset ch with
  | (.error e, ch) => (.error e, { w with phase := .done }, ch)
  | (.ok ([], range), ch) => (.ok none, w.receiveNone range ch)
  | (.ok (record :: rest, range), ch) =>
    (.ok (some (v.shape record)), w.receive v record rest range ch)

/-- Hands out the next record, or none at the end.  An error ends the walk too. -/
def next (w : Walk) (v : View) (server : Server σ) (ch : Channel σ) :
    Except ClientError (Option Json) × Walk × Channel σ :=
  match w.phase with
  | .done => (.ok none, w, ch)
  | .replaying [] => (.ok none, { w with phase := .done }, ch)
  | .replaying (record :: rest) =>
    (.ok (some (v.shape record)), { w with phase := .replaying rest }, ch)
  | .reading (record :: rest) range =>
    (.ok (some (v.shape record)), { w with phase := .reading rest range }, ch)
  | .reading [] _ | .fresh =>
    match w.nextLimit? v with
    | some limit => w.load v server limit ch
    | none => (.ok none, w.finish ch)

/-! ## Several records -/

/-- Why no more records were handed out. -/
inductive Ending where
  /-- As many as were asked for have been. -/
  | taken
  /-- There are no more. -/
  | finished
  | failed (e : ClientError)
deriving DecidableEq

/-- What taking records gives: the records, why they end, and where the walk stands then. -/
structure Taken (σ : Type) where
  records : List Json
  ending : Ending
  walk : Walk
  channel : Channel σ

/-- Takes up to `n` records. -/
def take (v : View) (server : Server σ) : Nat → Walk → Channel σ → Taken σ
  | 0, w, ch => ⟨[], .taken, w, ch⟩
  | n + 1, w, ch =>
    match w.next v server ch with
    | (.error e, w, ch) => ⟨[], .failed e, w, ch⟩
    | (.ok none, w, ch) => ⟨[], .finished, w, ch⟩
    | (.ok (some record), w, ch) =>
      let rest := take v server n w ch
      { rest with records := record :: rest.records }

end Walk

end PagedQuery
