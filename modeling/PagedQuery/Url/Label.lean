import PagedQuery.Text.Composition
import PagedQuery.Text.Direction
import PagedQuery.Text.Joining
import PagedQuery.Url.Folding
import PagedQuery.Url.Punycode

/-!
# PagedQuery.Url.Label

The labels of host names, and the names as they are sent.  A name may have letters of all
scripts: folded and composed they make up its labels, and a label outside of ASCII is sent in
Punycode behind `xn--`.
-/

namespace PagedQuery.Url

open Text (Direction direction)

/-- A label of a host name: its letters, and how it is sent. -/
structure Label where
  letters : List Char
  sent : List Char
deriving DecidableEq, Repr

namespace Label

/-- The longest label outside of ASCII, and the longest Punycode of one. -/
def maxLetters : Nat := 1000
def maxPunycode : Nat := 2000

/-- Whether letters can stand together in a label: they start with no mark, joiners are where
they are of use, and there are not too many. -/
def isSound (letters : List Char) : Bool :=
  !letters.head?.any Text.isMark && Text.joinersFit [] letters
    && (letters.all Punycode.isAscii || decide (letters.length ≤ maxLetters))

/-- The label that Punycode stands for.  Its letters must be those that folding and composing
give. -/
def ofPunycode? (cs : List Char) : Option Label := do
  if !cs.all Punycode.isAscii || cs.getLast?.all (· == '-') || maxPunycode < cs.length then none
  else
    let letters ← Punycode.decode? cs
    if letters.all isKept && Text.compose letters == letters && isSound letters then
      some ⟨letters, 'x' :: 'n' :: '-' :: '-' :: cs⟩
    else none

/-- The label of folded and composed letters. -/
def ofLetters? (letters : List Char) : Option Label :=
  match letters with
  | 'x' :: 'n' :: '-' :: '-' :: rest => ofPunycode? rest
  | letters =>
    if !isSound letters then none
    else if letters.all Punycode.isAscii then some ⟨letters, letters⟩
    else some ⟨letters, 'x' :: 'n' :: '-' :: '-' :: Punycode.encode letters⟩

/-! ## Directions -/

/-- Whether a label has letters that are written from right to left. -/
def hasRight (l : Label) : Bool :=
  l.letters.any fun c => direction c == .right || direction c == .arabicNumber

/-- Whether the last direction, marks apart, is one of `ends`; nothing but marks will do. -/
def endsIn (ends : List Direction) (directions : List Direction) : Bool :=
  (directions.reverse.find? (· != .nonspacing)).all ends.contains

/-- Whether a label can be read in one direction, the one in which it starts. -/
def isOneWay (l : Label) : Bool :=
  match l.letters.map direction with
  | [] => true
  | .left :: rest =>
    rest.all (fun d => d != .right && d != .arabicNumber)
      && endsIn [.left, .europeanNumber] rest
  | .right :: rest =>
    rest.all (· != .left) && endsIn [.right, .europeanNumber, .arabicNumber] rest
      && !(rest.contains .europeanNumber && rest.contains .arabicNumber)
  | _ => false

end Label

/-! ## Names -/

/-- A host name as it is sent.  In a name that is written from right to left in part, every
label must have one direction. -/
def asciiName? (name : List Char) : Option (List Char) := do
  let folded ← name.mapM fold?
  let labels ← ((Text.compose folded.flatten).splitOn '.').mapM Label.ofLetters?
  if labels.any Label.hasRight && !labels.all Label.isOneWay then none
  else some (['.'].intercalate (labels.map Label.sent))

end PagedQuery.Url
