import PagedQuery.Term.Basic

/-!
# PagedQuery.Filter.Expr

Filter expressions: leaves holding a rendered comparison such as `eq(status,active)`, and
composites that join expressions by `and` or `or`; each may be negated.  Combining keeps
expressions flat and free of repetitions.
-/

namespace PagedQuery.Filter

inductive Combinator where
  | and | or
deriving DecidableEq, Repr

def Combinator.name : Combinator → String
  | .and => "and"
  | .or => "or"

/-- A filter expression.  A composite without children is empty: it filters nothing. -/
inductive Expr where
  | leaf (negated : Bool) (text : String)
  | composite (negated : Bool) (op : Combinator) (children : List Expr)
deriving Repr, Inhabited

namespace Expr

/-! ## Equality -/

mutual

def decEq : (a b : Expr) → Decidable (a = b)
  | .leaf n s, .leaf n' s' =>
    if h : n = n' ∧ s = s' then isTrue (by rw [h.1, h.2])
    else isFalse fun e => h (by injection e with hn hs; exact ⟨hn, hs⟩)
  | .composite n op cs, .composite n' op' cs' =>
    match decEqEach cs cs' with
    | isTrue hc =>
      if h : n = n' ∧ op = op' then isTrue (by rw [h.1, h.2, hc])
      else isFalse fun e => h (by injection e with hn ho; exact ⟨hn, ho⟩)
    | isFalse hc => isFalse fun e => hc (by injection e)
  | .leaf .., .composite .. => isFalse nofun
  | .composite .., .leaf .. => isFalse nofun

def decEqEach : (as bs : List Expr) → Decidable (as = bs)
  | [], [] => isTrue rfl
  | a :: as, b :: bs =>
    match decEq a b, decEqEach as bs with
    | isTrue h, isTrue hs => isTrue (by rw [h, hs])
    | isFalse h, _ => isFalse fun e => h (List.cons.inj e).1
    | _, isFalse hs => isFalse fun e => hs (List.cons.inj e).2
  | [], _ :: _ => isFalse nofun
  | _ :: _, [] => isFalse nofun

end

instance : DecidableEq Expr := decEq

/-! ## Parts -/

/-- The expression that filters nothing. -/
def empty : Expr := .composite false .and []

/-- A rendered comparison, taken as it is; without any text there is nothing to filter. -/
def raw (text : String) : Expr :=
  if text = "" then empty else .leaf false text

def isEmpty : Expr → Bool
  | .composite _ _ [] => true
  | _ => false

def isLeaf : Expr → Bool
  | .leaf .. => true
  | .composite .. => false

def isNegated : Expr → Bool
  | .leaf negated _ => negated
  | .composite negated _ _ => negated

def children : Expr → List Expr
  | .leaf .. => []
  | .composite _ _ children => children

/-! ## Combination -/

/-- The same expression with its negation flipped. -/
def negate : Expr → Expr
  | .leaf negated text => .leaf (!negated) text
  | .composite negated op children => .composite (!negated) op children

mutual

/-- The children `acc` of a composite under `op` with one more.  A child that is there already
is left out; the children of a composite that is not negated take its place if it has the same
combinator or only one child. -/
def insert (op : Combinator) (acc : List Expr) : Expr → List Expr
  | .leaf negated text => if .leaf negated text ∈ acc then acc else acc ++ [.leaf negated text]
  | .composite negated op' children =>
    if .composite negated op' children ∈ acc then acc
    else if !negated && (op' == op || children.length == 1) then insertEach op acc children
    else acc ++ [.composite negated op' children]

/-- The children `acc` with several more, one after the other. -/
def insertEach (op : Combinator) (acc : List Expr) : List Expr → List Expr
  | [] => acc
  | e :: es => insertEach op (insert op acc e) es

end

/-- Two expressions joined by `op`.  An empty expression changes nothing, and an expression
joined with itself stays as it is. -/
def combine (op : Combinator) (a b : Expr) : Expr :=
  if a = b ∨ b.isEmpty then a
  else if a.isEmpty then b
  else .composite false op (insertEach op [] [a, b])

def and (a b : Expr) : Expr := combine .and a b

def or (a b : Expr) : Expr := combine .or a b

/-! ## The written form -/

/-- `text`, or `not(text)` if negated. -/
def negatedText (negated : Bool) (text : String) : String :=
  if negated then Term.callText "not" [text] else text

mutual

/-- The expression as a term of a query; an empty one is written as nothing, even negated. -/
def render : Expr → String
  | .leaf negated text => negatedText negated text
  | .composite _ _ [] => ""
  | .composite negated op (c :: cs) =>
    negatedText negated (Term.callText op.name (c.render :: renderEach cs))

def renderEach : List Expr → List String
  | [] => []
  | e :: es => e.render :: renderEach es

end

theorem renderEach_eq_map (es : List Expr) : renderEach es = es.map render := by
  induction es with
  | nil => rfl
  | cons e es ih => simp [renderEach, ih]

end Expr

end PagedQuery.Filter
