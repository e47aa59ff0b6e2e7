import PagedQuery.Json.Basic
import PagedQuery.Text.Pieces

/-!
# PagedQuery.Record

Dotted paths into records, and flat views of nested records.
-/

namespace PagedQuery.Record

/-- The value that a path of segments leads to, through nested objects. -/
def follow? : List String → Json → Option Json
  | [], v => some v
  | s :: rest, v => (v.member? s).bind (follow? rest)

/-- The value at a dotted path: absent if a segment is missing or an earlier value is no
object. -/
def resolve? (path : String) (record : Json) : Option Json :=
  follow? (Text.split '.' path) record

theorem follow?_append (p q : List String) (v : Json) :
    follow? (p ++ q) v = (follow? p v).bind (follow? q) := by
  induction p generalizing v with
  | nil => rfl
  | cons s rest ih =>
    cases h : v.member? s with
    | none => simp [follow?, h]
    | some w => simp [follow?, h, ih]

/-- A flat row with the value at each of the given paths, null where there is none. -/
def project (record : Json) (fields : List String) : Members :=
  fields.foldl (fun row path => Members.set row path ((resolve? path record).getD .null)) []

/-! ## Flattening -/

/-- The dotted path of a member, below the path of its object. -/
def memberPath (above : Option String) (key : String) : String :=
  match above with
  | some path => path ++ "." ++ key
  | none => key

mutual

/-- Adds the leaves of a value found at `path`: those of its members if it is an object with
members, else the value itself. -/
def flattenAt (row : Members) (path : String) : Json → Members
  | .object (m :: ms) => flattenMembers row (some path) (m :: ms)
  | v => Members.set row path v

/-- Adds the leaves of an object's members, one after the other. -/
def flattenMembers (row : Members) (above : Option String) : List (String × Json) → Members
  | [] => row
  | (key, v) :: rest =>
    flattenMembers (flattenAt row (memberPath above key) v) above rest

end

/-- The leaves of a record under their dotted paths.  Only objects with members are taken
apart; a record that is no object has no leaves. -/
def flatten : Json → Members
  | .object members => flattenMembers [] none members
  | _ => []

end PagedQuery.Record
