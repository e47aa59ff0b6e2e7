import PagedQuery.Filter.Expr
import PagedQuery.Server.Basic

/-!
# PagedQuery.View.Basic

Views of a remote collection: which records are asked for, in what order and in what pages.  A
view is a description and never changes; what has been learnt by reading through it is kept
apart, in a `Memo`.
-/

namespace PagedQuery

/-- The positions from `start` up to, and without, `stop`. -/
structure Window where
  start : Nat
  stop : Nat
deriving DecidableEq, Repr

namespace Window

/-- The number of positions; none if the window ends before it starts. -/
def length (w : Window) : Nat := w.stop - w.start

end Window

/-- Offsets, limits and bounds are words of 64 bits; this is the largest of them. -/
def maxOffset : Nat := UInt64.size - 1

/-- The sum of two offsets, if it is an offset. -/
def addOffset? (a b : Nat) : Option Nat :=
  if a + b ≤ maxOffset then some (a + b) else none

/-- The sum of two offsets where it is not checked: of a sum that is no offset the lower 64 bits
are left. -/
def addOffset (a b : Nat) : Nat := (a + b) % UInt64.size

/-- A description of some records of a collection. -/
structure View where
  /-- The address of the collection. -/
  path : String
  filter : Filter.Expr
  /-- The fields to return; those with a leading dash are left out instead. -/
  select : List String
  /-- The fields to sort by; those with a leading dash sort from high to low. -/
  order : List String
  search : Option String
  pageSize : Nat
  /-- The position of the first record. -/
  offset : Nat
  /-- The positions a bounded view is limited to. -/
  window : Option Window
  /-- The dotted paths that each record is reduced to. -/
  projection : Option (List String)
deriving DecidableEq

/-- What reading through a view has brought to light. -/
structure Memo where
  /-- The records received by the latest walk, as they were received. -/
  records : Option (List Json)
  /-- Whether the records are all there are. -/
  complete : Bool
  /-- The range of the latest response that carried one. -/
  range : Option ContentRange
deriving DecidableEq

namespace Memo

/-- Nothing has been read yet. -/
def blank : Memo := ⟨none, false, none⟩

/-- All records of the view, once a walk has reached their end. -/
def materialized? (m : Memo) : Option (List Json) :=
  if m.complete then m.records else none

end Memo

/-- What an operation on a view may change: the memory of the view and the session with the
server. -/
structure Channel (σ : Type) where
  memo : Memo
  session : Session σ

namespace View

def defaultPageSize : Nat := 100

/-- All records of the collection at `path`. -/
def ofPath (path : String) : View where
  path := path
  filter := .empty
  select := []
  order := []
  search := none
  pageSize := defaultPageSize
  offset := 0
  window := none
  projection := none

def isBounded (v : View) : Bool := v.window.isSome

end View

end PagedQuery
