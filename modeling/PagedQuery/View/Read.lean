import PagedQuery.View.Build
import PagedQuery.View.Walk

/-!
# PagedQuery.View.Read

Reading through a view at once: how many records there are, single records, all of them.  What
the memory of the view can answer is not asked again.
-/

namespace PagedQuery.View

variable {σ : Type}

/-- The number of records the server reports, if it reports any.  One request, for no records,
is made unless a range is remembered. -/
def count (v : View) (server : Server σ) (ch : Channel σ) :
    Except ClientError (Option Nat) × Channel σ :=
  match ch.memo.range with
  | some range => (.ok (some range.count.toNat), ch)
  | none =>
    match v.fetchPage server v.url 0 v.offset ch with
    | (.error e, ch) => (.error e, ch)
    | (.ok _, ch) => (.ok (ch.memo.range.map fun range => range.count.toNat), ch)

/-- The record at `index`, counted from the first of the view: from memory if it is there,
else by a request for one record, at an offset that is not checked.  Past a window, and past the
end once it is known, there is none. -/
def get (v : View) (server : Server σ) (index : Nat) (ch : Channel σ) :
    Except ClientError (Option Json) × Channel σ :=
  match ch.memo.records.bind (·[index]?) with
  | some record => (.ok (some (v.shape record)), ch)
  | none =>
    if (v.window.any fun window => window.length ≤ index) || ch.memo.materialized?.isSome then
      (.ok none, ch)
    else
      match v.fetchPage server v.url 1 (addOffset v.offset index) ch with
      | (.error e, ch) => (.error e, ch)
      | (.ok (records, _), ch) => (.ok (records.head?.map v.shape), ch)

/-- The first record. -/
def first (v : View) (server : Server σ) (ch : Channel σ) :
    Except ClientError (Option Json) × Channel σ :=
  v.get server 0 ch

/-- Whether memory tells if there is a record: there is one in it, or it holds all. -/
def knownExistence? (memo : Memo) : Option Bool :=
  match memo.records with
  | some records =>
    if memo.complete || !records.isEmpty then some (!records.isEmpty) else none
  | none => none

/-- Whether there is a record. -/
def exists? (v : View) (server : Server σ) (ch : Channel σ) :
    Except ClientError Bool × Channel σ :=
  match knownExistence? ch.memo with
  | some known => (.ok known, ch)
  | none =>
    match v.get server 0 ch with
    | (.ok record, ch) => (.ok record.isSome, ch)
    | (.error e, ch) => (.error e, ch)

/-- All records, by a walk to the end; nothing if more than `budget` records come before it. -/
def collect (v : View) (server : Server σ) (budget : Nat) (ch : Channel σ) :
    Option (Except ClientError (List Json)) × Channel σ :=
  let taken := (Walk.start v ch.memo).take v server (budget + 1) ch
  match taken.ending with
  | .taken => (none, taken.channel)
  | .finished => (some (.ok taken.records), taken.channel)
  | .failed e => (some (.error e), taken.channel)

/-! ## Rows of values -/

/-- Rows of the values at some paths, or a view that will give them. -/
inductive Rows where
  | ready (rows : List Members)
  | deferred (v : View)

/-- The values at the given paths for every record: at once if all records are remembered. -/
def values (v : View) (memo : Memo) (fields : List String) : Except ClientError Rows :=
  match v.projected fields with
  | .error e => .error e
  | .ok deferred =>
    match memo.materialized? with
    | some records => .ok (.ready (records.map fun r => Record.project r fields))
    | none => .ok (.deferred deferred)

end PagedQuery.View
