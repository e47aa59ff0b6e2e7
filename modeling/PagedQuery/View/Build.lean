import PagedQuery.Filter.Lookup
import PagedQuery.View.Basic

/-!
# PagedQuery.View.Build

Building views from views.  Each function gives a new description, so that nothing learnt
about the old view is carried over; arguments are checked before anything is sent.
-/

namespace PagedQuery.View

/-! ## Filters -/

/-- Only the records that satisfy `expr` as well. -/
def withFilter (v : View) (expr : Filter.Expr) : View :=
  { v with filter := v.filter.and expr }

/-- The terms of a query text, all of which must hold. -/
def allTerms (terms : List Term) : Filter.Expr :=
  terms.foldl (fun acc t => acc.and (.raw t.render)) .empty

/-- Only the records that satisfy a query text such as `eq(a,1)&lt(b,2)`. -/
def withRawFilter (v : View) (text : String) : Except ClientError View :=
  let text := Text.trim text
  if text = "" then .error (.invalidInput .emptyRawFilter)
  else
    match Term.parseQuery text with
    | .ok terms => .ok (v.withFilter (allTerms terms))
    | .error (position, problem) => .error (.expression (.parse position problem))

/-- Only the records that satisfy all lookups. -/
def withLookups (v : View) (lookups : List (String × Filter.Value)) : Except ClientError View :=
  match Filter.Expr.ofLookups lookups with
  | .ok expr => .ok (v.withFilter expr)
  | .error e => .error (.expression e)

/-! ## Fields -/

/-- Whether a field name can be listed: apart from one leading dash it is not empty and has
neither blanks nor characters that structure a query text. -/
def isFieldName (field : String) : Bool :=
  let name := match field.toList with
    | '-' :: cs => cs
    | cs => cs
  !name.isEmpty && !name.any fun c => Text.isBlank c || Term.isStructural c

/-- The given fields if all can be listed; the first that cannot is the error. -/
def checkFields (use : FieldUse) (fields : List String) : Except ClientError (List String) :=
  match fields.find? fun f => !isFieldName f with
  | some bad => .error (.invalidInput (.fieldName use bad))
  | none => .ok fields

/-- Each record with only these fields, or without those that have a leading dash. -/
def selecting (v : View) (fields : List String) : Except ClientError View :=
  (checkFields .select fields).map fun fields => { v with select := fields }

/-- The records sorted by these fields. -/
def orderedBy (v : View) (fields : List String) : Except ClientError View :=
  (checkFields .ordering fields).map fun fields => { v with order := fields }

/-- Each record reduced to these dotted paths. -/
def projected (v : View) (fields : List String) : Except ClientError View :=
  (checkFields .projection fields).map fun fields => { v with projection := some fields }

/-- The records in which `term` is found; a blank term looks for nothing. -/
def searching (v : View) (term : String) : View :=
  let term := Text.trim term
  { v with search := if term = "" then none else some term }

/-! ## Pages and positions -/

/-- Another page size or another offset.  A bounded view keeps the length of its window. -/
def configure (v : View) (pageSize offset : Option Nat) : Except ClientError View :=
  if pageSize = some 0 then .error (.invalidInput .zeroPageSize)
  else
    let v := { v with pageSize := pageSize.getD v.pageSize }
    match offset, v.window with
    | none, _ => .ok v
    | some o, none => .ok { v with offset := o }
    | some o, some w =>
      match addOffset? o w.length with
      | some stop => .ok { v with offset := o, window := some ⟨o, stop⟩ }
      | none => .error (.invalidInput (.windowOverflow o))

/-- Pages of `n` records. -/
def limit (v : View) (n : Nat) : Except ClientError View :=
  v.configure (some n) none

/-- Pages of `n` records, or of one if `n` is zero. -/
def withPageSize (v : View) (n : Nat) : View :=
  { v with pageSize := max n 1 }

/-- One end of a slice. -/
inductive Bound where
  | unbounded
  | included (n : Nat)
  | excluded (n : Nat)
deriving DecidableEq, Repr

/-- The first position of a slice that starts at this bound, if it is an offset. -/
def Bound.start? : Bound → Option Nat
  | .unbounded => some 0
  | .included n => some n
  | .excluded n => addOffset? n 1

/-- The position at which a slice with this end stops, if it is an offset; an open end has
none. -/
def Bound.stop? : Bound → Option (Option Nat)
  | .unbounded => some none
  | .included n => (addOffset? n 1).map some
  | .excluded n => some (some n)

/-- The window of a slice with these absolute positions, within the window there is. -/
def sliceWindow (current : Option Window) (start : Nat) (stop : Option Nat) : Option Window :=
  match current, stop with
  | some w, some stop => some ⟨min start w.stop, min stop w.stop⟩
  | some w, none => some ⟨min start w.stop, w.stop⟩
  | none, some stop => some ⟨start, stop⟩
  | none, none => none

/-- The slice with these absolute positions.  A page is never larger than the window. -/
def sliceAt (v : View) (start : Nat) (stop : Option Nat) : View :=
  match sliceWindow v.window start stop with
  | some w =>
    { v with offset := w.start, pageSize := max (min v.pageSize w.length) 1, window := some w }
  | none => { v with offset := start }

/-- The records between two bounds, which count from the first record of the view.  A slice of
a bounded view stays within its window. -/
def slice (v : View) (first last : Bound) : Except ClientError View :=
  let overflow := Except.error (.invalidInput .sliceOverflow)
  match first.start?, last.stop? with
  | some start, some none =>
    match addOffset? v.offset start with
    | some a => .ok (v.sliceAt a none)
    | none => overflow
  | some start, some (some stop) =>
    if stop < start then .error (.invalidInput (.reversedSlice start stop))
    else
      match addOffset? v.offset start, addOffset? v.offset stop with
      | some a, some b => .ok (v.sliceAt a (some b))
      | _, _ => overflow
  | _, _ => overflow

end PagedQuery.View
