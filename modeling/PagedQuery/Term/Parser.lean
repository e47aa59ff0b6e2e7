import PagedQuery.Term.Basic

/-!
# PagedQuery.Term.Parser

Reading a query text, in one pass from the left.  The reader keeps the brackets that are open
and the piece it is in the middle of; each character either extends this or is the first that
no query could have in its place, and then its position is reported.
-/

namespace PagedQuery

/-- Why a text is not a query. -/
inductive ParseProblem where
  /-- An open bracket has to be closed, but another character or the end of the text follows. -/
  | unclosed (found : Option Char)
  /-- Nothing stands between two `&`, or before the first or after the last of them. -/
  | emptyFragment
  /-- A top-level term is complete and something other than `&` follows. -/
  | unexpected (found : Char)
deriving DecidableEq, Repr

def ParseProblem.message : ParseProblem → String
  | .unclosed (some c) => "expected ')', found '" ++ String.singleton c ++ "'"
  | .unclosed none => "expected ')', found end of input"
  | .emptyFragment => "empty query fragment"
  | .unexpected c => "unexpected '" ++ String.singleton c ++ "'"

namespace Term

/-- An open bracket: the name in front of it, if any, and the terms read behind it, last first. -/
structure Bracket where
  name : Option String
  before : List Term

/-- The piece in the middle of which the reader is: plain text, last character first, or a
bracketed term that has just been closed. -/
inductive Piece where
  | text (chars : List Char)
  | closed (term : Term)

def Piece.term : Piece → Term
  | .text chars => .atom (String.ofList chars.reverse)
  | .closed term => term

/-- Whether nothing has been read of the piece yet. -/
def Piece.isBlank : Piece → Bool
  | .text [] => true
  | _ => false

/-- The term of a bracket that is closed after `last`.  Brackets with nothing at all between
them hold no terms, rather than one empty term. -/
def Bracket.close (b : Bracket) (last : Piece) : Term :=
  let items := if last.isBlank && b.before.isEmpty then [] else (last.term :: b.before).reverse
  match b.name with
  | some name => .call name items
  | none => .group items

/-- Where the reader stands: the top-level terms before the current one, last first, the
brackets around it, innermost first, and the current piece. -/
structure Reader where
  terms : List Term
  brackets : List Bracket
  piece : Piece

def Reader.start : Reader := ⟨[], [], .text []⟩

/-- Why the reader cannot go on with `c`. -/
def Reader.refuse (r : Reader) (c : Char) : ParseProblem :=
  if !r.brackets.isEmpty then .unclosed (some c)
  else if r.piece.isBlank then .emptyFragment
  else .unexpected c

/-- Opens a bracket: plain text in front of it is its name. -/
def Reader.opened (r : Reader) (chars : List Char) : Reader :=
  let name := if chars.isEmpty then none else some (String.ofList chars.reverse)
  ⟨r.terms, ⟨name, []⟩ :: r.brackets, .text []⟩

/-- A comma or a closing bracket inside brackets, an ampersand outside. -/
def Reader.separate (r : Reader) (c : Char) : Except ParseProblem Reader :=
  match r.brackets with
  | b :: outer =>
    if c = ',' then .ok ⟨r.terms, ⟨b.name, r.piece.term :: b.before⟩ :: outer, .text []⟩
    else if c = ')' then .ok ⟨r.terms, outer, .closed (b.close r.piece)⟩
    else .error (r.refuse c)
  | [] =>
    if c = '&' && !r.piece.isBlank then .ok ⟨r.piece.term :: r.terms, [], .text []⟩
    else .error (r.refuse c)

/-- One character.  After a closed bracket only a separator may follow. -/
def Reader.step (r : Reader) (c : Char) : Except ParseProblem Reader :=
  match r.piece with
  | .text chars =>
    if c = '(' then .ok (r.opened chars)
    else if isStructural c then r.separate c
    else .ok ⟨r.terms, r.brackets, .text (c :: chars)⟩
  | .closed _ => r.separate c

/-- The end of the text. -/
def Reader.finish (r : Reader) : Except ParseProblem (List Term) :=
  if !r.brackets.isEmpty then .error (.unclosed none)
  else if !r.piece.isBlank then .ok (r.piece.term :: r.terms).reverse
  else if r.terms.isEmpty then .ok []
  else .error .emptyFragment

/-- Reads on from character number `position`. -/
def Reader.run (r : Reader) (position : Nat) : List Char → Except (Nat × ParseProblem) (List Term)
  | [] => r.finish.mapError (position, ·)
  | c :: cs =>
    match r.step c with
    | .ok r' => r'.run (position + 1) cs
    | .error problem => .error (position, problem)

/-- The terms of a query text; the empty text has none.  Positions of errors count characters. -/
def parseQuery (text : String) : Except (Nat × ParseProblem) (List Term) :=
  Reader.start.run 0 text.toList

end Term

end PagedQuery
