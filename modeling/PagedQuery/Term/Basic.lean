import PagedQuery.Text.Pieces

/-!
# PagedQuery.Term.Basic

The terms a query text is made of, and their written form.  A query is a list of terms joined
by `&`; a term is a call `name(arg,...)`, a group `(item,...)` or plain text.  Four characters
are structure, `(`, `)`, `,` and `&`, and nothing escapes them.
-/

namespace PagedQuery

/-- One term of a query text. -/
inductive Term where
  | call (name : String) (args : List Term)
  | group (items : List Term)
  | atom (text : String)
deriving Repr, Inhabited

namespace Term

/-- The characters that structure a query text. -/
def isStructural (c : Char) : Bool :=
  c == '(' || c == ')' || c == ',' || c == '&'

/-- The name of a call. -/
def name? : Term → Option String
  | .call name _ => some name
  | _ => none

/-! ## The written form -/

/-- A name in front of a bracketed list; without a name this is a group. -/
def callText (name : String) (args : List String) : String :=
  name ++ "(" ++ Text.join "," args ++ ")"

mutual

def render : Term → String
  | .call name args => callText name (renderEach args)
  | .group items => callText "" (renderEach items)
  | .atom text => text

/-- The written form of every term of a list. -/
def renderEach : List Term → List String
  | [] => []
  | t :: ts => t.render :: renderEach ts

end

theorem renderEach_eq_map (ts : List Term) : renderEach ts = ts.map render := by
  induction ts with
  | nil => rfl
  | cons t ts ih => simp [renderEach, ih]

/-- A whole query: its terms joined by `&`. -/
def renderQuery (terms : List Term) : String :=
  Text.join "&" (renderEach terms)

end Term

end PagedQuery
