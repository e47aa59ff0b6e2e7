import PagedQuery.Filter.Field

/-!
# PagedQuery.Filter.Lookup

Lookup names such as `author__name__in`: the segments of a field path and, at the end, perhaps
an operator, separated by doubled underscores.
-/

namespace PagedQuery.Filter

/-- A decoded lookup name. -/
structure Lookup where
  path : String
  operator : Operator
deriving DecidableEq, Repr

namespace Lookup

/-- Splits off the last segment if it is an operator and not the only segment. -/
def ofSegments (segments : List String) : Lookup :=
  match segments.getLast?.bind Operator.ofName? with
  | some op =>
    if 1 < segments.length then ⟨Text.join "." segments.dropLast, op⟩
    else ⟨Text.join "." segments, .eq⟩
  | none => ⟨Text.join "." segments, .eq⟩

/-- Decodes a lookup name; without an operator it tests for equality. -/
def ofName (name : String) : Lookup :=
  ofSegments (Text.splitPair '_' name)

end Lookup

/-- The comparison that a lookup name and a value describe. -/
def Expr.ofLookup (name : String) (value : Value) : Except Error Expr :=
  let lookup := Lookup.ofName name
  (Field.root.child lookup.path).compare lookup.operator value

/-- All the given lookups must hold.  The first that is no comparison is the error. -/
def Expr.ofLookups (lookups : List (String × Value)) : Except Error Expr :=
  go .empty lookups
where
  go (acc : Expr) : List (String × Value) → Except Error Expr
    | [] => .ok acc
    | (name, value) :: rest =>
      match Expr.ofLookup name value with
      | .ok comparison => go (acc.and comparison) rest
      | .error e => .error e

-- A plain `rfl` would be tried as a simplification rule as well, and looking into `ofLookup` for
-- that takes long.
theorem Expr.ofLookups_go_cons (acc : Expr) (name : String) (value : Value)
    (rest : List (String × Value)) :
    ofLookups.go acc ((name, value) :: rest) =
      match ofLookup name value with
      | .ok comparison => ofLookups.go (acc.and comparison) rest
      | .error e => .error e := by
  exact rfl

end PagedQuery.Filter
