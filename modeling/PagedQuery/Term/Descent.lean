import PagedQuery.Term.Parser

/-!
# PagedQuery.Term.Descent

Reading a query text by recursive descent.  There is a function for each kind of piece: a term, what
stands in brackets, and a whole query.  They call each other as the pieces are nested, each reads on
where the one before has stopped, and an error is told with the position of the parser and a
message.  The reader that goes through the text once comes to the same (`parseQuery_eq_descend`).
-/

namespace PagedQuery.Term

/-- Whether the term is plain text without a character. -/
def isBlank : Term → Bool
  | .atom text => text.isEmpty
  | _ => false

/-- What is left of a text, and how many of its characters lie before that. -/
structure Parser where
  rest : List Char
  position : Nat

/-- What has been read where `p` stands, and the parser behind it, which has no more left. -/
structure Parsed (α : Type) (p : Parser) where
  value : α
  parser : Parser
  le : parser.rest.length ≤ p.rest.length

namespace Parser

/-- The position of an error, and what is wrong there. -/
abbrev Failure := Nat × String

def peek (p : Parser) : Option Char := p.rest.head?

def advance (p : Parser) : Parser := ⟨p.rest.tail, p.position + 1⟩

theorem length_advance_lt {p : Parser} {c : Char} (h : p.peek = some c) :
    p.advance.rest.length < p.rest.length := by
  obtain ⟨_ | ⟨d, rest⟩, position⟩ := p
  · contradiction
  · exact Nat.lt_succ_self _

theorem length_advance_le (p : Parser) : p.advance.rest.length ≤ p.rest.length := by
  rw [advance, List.length_tail]
  omega

/-- Reads a character that has to be there.  Another one is stepped back from. -/
def expect (p : Parser) (expected : Char) : Except Failure (Parsed Unit p) :=
  let wanted := "expected '" ++ String.singleton expected ++ "', found "
  match p.peek with
  | some c =>
    if c = expected then .ok ⟨(), p.advance, p.length_advance_le⟩
    else .error (p.advance.position - 1, wanted ++ "'" ++ String.singleton c ++ "'")
  | none => .error (p.position, wanted ++ "end of input")

/-- Plain text, as far as it goes. -/
def readAtom (p : Parser) : Parsed String p :=
  let atom := p.rest.takeWhile fun c => !isStructural c
  ⟨String.ofList atom, ⟨p.rest.dropWhile fun c => !isStructural c, p.position + atom.length⟩,
    (List.dropWhile_suffix _).length_le⟩

mutual

/-- A group, plain text or a call. -/
def parseTerm (p : Parser) : Except Failure (Parsed Term p) :=
  if h : p.peek = some '(' then do
    have := length_advance_lt h
    let items ← parseArgs p.advance
    return ⟨.group items.value, items.parser, Nat.le_trans items.le p.length_advance_le⟩
  else
    let atom := p.readAtom
    if h : atom.parser.peek = some '(' then
      if atom.value = "" then .error (atom.parser.position, "call without a name")
      else do
        have hlt : p.readAtom.parser.advance.rest.length < p.rest.length :=
          Nat.lt_of_lt_of_le (length_advance_lt h) atom.le
        let args ← parseArgs atom.parser.advance
        return ⟨.call atom.value args.value, args.parser,
          Nat.le_trans args.le (Nat.le_of_lt hlt)⟩
    else .ok ⟨.atom atom.value, atom.parser, atom.le⟩
termination_by 3 * p.rest.length

/-- What stands in brackets, up to the closing one, which is read as well. -/
def parseArgs (p : Parser) : Except Failure (Parsed (List Term) p) :=
  if p.peek = some ')' then .ok ⟨[], p.advance, p.length_advance_le⟩
  else do
    let items ← parseItems p
    let closed ← items.parser.expect ')'
    return ⟨items.value, closed.parser, Nat.le_trans closed.le items.le⟩
termination_by 3 * p.rest.length + 2

/-- One term or more, with commas between them. -/
def parseItems (p : Parser) : Except Failure (Parsed (List Term) p) := do
  let term ← parseTerm p
  if h : term.parser.peek = some ',' then
    have hlt := Nat.lt_of_lt_of_le (length_advance_lt h) term.le
    let more ← parseItems term.parser.advance
    return ⟨term.value :: more.value, more.parser, Nat.le_trans more.le (Nat.le_of_lt hlt)⟩
  else return ⟨[term.value], term.parser, term.le⟩
termination_by 3 * p.rest.length + 1

end

/-- One term or more up to the end of the text, with ampersands between them. -/
def parseTerms (p : Parser) : Except Failure (List Term) := do
  let term ← parseTerm p
  if term.value.isBlank then throw (term.parser.position, "empty query fragment")
  if h : term.parser.peek = some '&' then
    have := Nat.lt_of_lt_of_le (length_advance_lt h) term.le
    let more ← parseTerms term.parser.advance
    return term.value :: more
  else
    match term.parser.peek with
    | some c =>
      throw (term.parser.advance.position - 1, "unexpected '" ++ String.singleton c ++ "'")
    | none => return [term.value]
termination_by p.rest.length

end Parser

/-- The terms of a query text, or where it cannot be read and why. -/
def descend (text : String) : Except Parser.Failure (List Term) :=
  if text.toList.isEmpty then .ok [] else Parser.parseTerms ⟨text.toList, 0⟩

end PagedQuery.Term
