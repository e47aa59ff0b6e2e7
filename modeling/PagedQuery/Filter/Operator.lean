/-!
# PagedQuery.Filter.Operator

The comparison operators of the query language.
-/

namespace PagedQuery.Filter

inductive Operator where
  | eq | ne | lt | le | gt | ge | like | ilike | isIn | out | null | empty
deriving DecidableEq, Repr

namespace Operator

/-- The name of the operator in query texts and in lookups. -/
def name : Operator → String
  | .eq => "eq" | .ne => "ne" | .lt => "lt" | .le => "le" | .gt => "gt" | .ge => "ge"
  | .like => "like" | .ilike => "ilike" | .isIn => "in" | .out => "out"
  | .null => "null" | .empty => "empty"

def all : List Operator :=
  [.eq, .ne, .lt, .le, .gt, .ge, .like, .ilike, .isIn, .out, .null, .empty]

theorem mem_all (op : Operator) : op ∈ all := by cases op <;> decide

/-- The operator with this name; names are compared exactly. -/
def ofName? (s : String) : Option Operator :=
  all.find? (·.name == s)

/-- What is said of a text that names no operator. -/
def unknownMessage : String := "Matching variant not found"

@[simp] theorem ofName?_name (op : Operator) : ofName? op.name = some op := by
  cases op <;> decide

theorem name_of_ofName? {s : String} {op : Operator} (h : ofName? s = some op) : op.name = s := by
  simpa using List.find?_some h

/-- What an operator compares a field with. -/
inductive Family where
  /-- One scalar. -/
  | scalar
  /-- A list of texts. -/
  | list
  /-- A truth value: whether the field is null or empty. -/
  | presence
deriving DecidableEq, Repr

def family : Operator → Family
  | .isIn | .out => .list
  | .null | .empty => .presence
  | _ => .scalar

end Operator

end PagedQuery.Filter
