import PagedQuery.Filter.Error
import PagedQuery.Filter.Expr
import PagedQuery.Text.Blank

/-!
# PagedQuery.Filter.Field

Dotted field paths and the comparisons that start from them.
-/

namespace PagedQuery.Filter

/-- A path of segments into a record. -/
structure Field where
  segments : List String
deriving DecidableEq, Repr

namespace Field

/-- The path without segments. -/
def root : Field := ⟨[]⟩

/-- The path continued by `name`, which may itself be dotted. -/
def child (f : Field) (name : String) : Field :=
  ⟨f.segments ++ Text.split '.' name⟩

/-- The segments joined by dots. -/
def path (f : Field) : String :=
  Text.join "." f.segments

/-- Whether a comparison may start from the path: it has segments, none of them is empty, and
none contains a blank. -/
def isValid (f : Field) : Bool :=
  !f.segments.isEmpty && f.segments.all fun s => s != "" && !s.toList.any Text.isBlank

/-- Compares the field with a value.  A bad path is reported before a bad value. -/
def compare (f : Field) (op : Operator) (value : Value) : Except Error Expr :=
  if !f.isValid then .error (.invalidField f.path)
  else
    match op.family, value with
    | .scalar, value =>
      match value.wire? with
      | some text => .ok (Expr.raw (Term.callText op.name [f.path, text]))
      | none => .error (.typeKind op value.kind)
    | .list, .list items =>
      .ok (Expr.raw (Term.callText op.name [f.path, Term.callText "" items]))
    | .presence, .boolean present =>
      let comparison : Operator := if present then .eq else .ne
      .ok (Expr.raw (Term.callText comparison.name [f.path, Term.callText op.name []]))
    | _, value => .error (.typeKind op value.kind)

end Field

end PagedQuery.Filter
