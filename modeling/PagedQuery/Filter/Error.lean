import PagedQuery.Filter.Operator
import PagedQuery.Filter.Value
import PagedQuery.Term.Parser
import PagedQuery.Text.Quoted

/-!
# PagedQuery.Filter.Error

What can be wrong with a filter.
-/

namespace PagedQuery.Filter

inductive Error where
  /-- The operator cannot compare with values of this kind. -/
  | typeKind (operator : Operator) (kind : Kind)
  /-- The field path is empty, or has an empty or blank-containing segment. -/
  | invalidField (path : String)
  /-- A query text has a problem at a position, counted in characters. -/
  | parse (position : Nat) (problem : ParseProblem)
deriving DecidableEq, Repr

def Error.message : Error → String
  | .typeKind operator kind =>
    "Operator " ++ operator.name ++ " does not accept " ++ kind.name ++ " values"
  | .invalidField path => "Invalid field path: " ++ Text.quoted path
  | .parse position problem =>
    "Parse error at position " ++ toString position ++ ": " ++ problem.message

end PagedQuery.Filter
