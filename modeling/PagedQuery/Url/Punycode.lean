/-!
# PagedQuery.Url.Punycode

Punycode: a label with letters outside of ASCII, written in ASCII.  First come its ASCII
characters; each other letter is then an insertion, in the order of code points and, for the
same one, of positions.  What is written of an insertion is how far it lies behind the one
before, if one counts through all positions for a code point before going on to the next.
-/

namespace PagedQuery.Url.Punycode

/-! ## Numbers -/

/-- A digit of base 36: letters come before decimal digits. -/
def digit (d : Nat) : Char := Char.ofNat (if d < 26 then 97 + d else 22 + d)

def digitValue? (c : Char) : Option Nat :=
  if c.isLower then some (c.toNat - 97)
  else if c.isUpper then some (c.toNat - 65)
  else if c.isDigit then some (c.toNat - 22)
  else none

/-- A digit below this bound is the last one of its number, at the given place from 1 on. -/
def threshold (bias place : Nat) : Nat := min 26 (max 1 (36 * place - bias))

theorem one_le_threshold (bias place : Nat) : 1 ≤ threshold bias place := by
  unfold threshold; omega

/-- A number, the least digit first. -/
def encodeNumber (bias place n : Nat) : List Char :=
  let t := threshold bias place
  if n < t then [digit n]
  else digit (t + (n - t) % (36 - t)) :: encodeNumber bias (place + 1) ((n - t) / (36 - t))
termination_by n
decreasing_by
  have := one_le_threshold bias place
  have := Nat.div_le_self (n - threshold bias place) (36 - threshold bias place)
  omega

/-- The number at the front, times `weight` and added to `acc`, and what follows it.  Neither
the number nor a weight may go beyond 32 bits. -/
def decodeNumber? (bias place weight acc : Nat) : List Char → Option (Nat × List Char)
  | [] => none
  | c :: cs => do
    let d ← digitValue? c
    let t := threshold bias place
    let acc := acc + d * weight
    if UInt32.size ≤ acc then none
    else if d < t then some (acc, cs)
    else if UInt32.size ≤ weight * (36 - t) then none
    else decodeNumber? bias (place + 1) (weight * (36 - t)) acc cs

/-- The bias for numbers about as large as `delta`. -/
def biasOf (delta : Nat) : Nat :=
  if 455 < delta then 36 + biasOf (delta / 35) else 36 * delta / (delta + 38)
termination_by delta
decreasing_by omega

/-- The bias after an insertion `delta` behind the one before, which made the length `count`.
The first distance is not a good guess for the others. -/
def nextBias (delta count : Nat) (isFirst : Bool) : Nat :=
  let delta := if isFirst then delta / 700 else delta / 2
  biasOf (delta + delta / count)

/-! ## Labels -/

/-- Where the insertions stand: the code point and position from which to count on, the number
of characters there are, and the bias for the next number. -/
structure Cursor where
  code : Nat
  position : Nat
  count : Nat
  bias : Nat

/-- The cursor before any insertion into `count` characters. -/
def Cursor.start (count : Nat) : Cursor := ⟨128, 0, count, 72⟩

/-- The cursor behind the insertion of `code` at `position`, with `delta` between the two. -/
def Cursor.pass (k : Cursor) (code position delta : Nat) (isFirst : Bool) : Cursor :=
  ⟨code, position + 1, k.count + 1, nextBias delta (k.count + 1) isFirst⟩

def isAscii (c : Char) : Bool := c.toNat < 128

/-- The letters of a label outside of ASCII with their indices, in the order of insertion. -/
def insertions (label : List Char) : List (Nat × Nat) :=
  ((label.zipIdx.filter fun (c, _) => !isAscii c).map fun (c, i) => (c.toNat, i)).mergeSort
    fun a b => a.1 < b.1 || (a.1 == b.1 && a.2 ≤ b.2)

/-- The numbers for some insertions.  An insertion goes behind the characters in front of it
that are there already. -/
def encodeFrom (label : List Char) (k : Cursor) (isFirst : Bool) : List (Nat × Nat) → List Char
  | [] => []
  | (code, i) :: rest =>
    let position := (label.take i).countP fun c => isAscii c || c.toNat ≤ code
    let delta := (code - k.code) * (k.count + 1) + position - k.position
    encodeNumber k.bias 1 delta
      ++ encodeFrom label (k.pass code position delta isFirst) false rest

def encode (label : List Char) : List Char :=
  let plain := label.filter isAscii
  (if plain.isEmpty then [] else plain ++ ['-'])
    ++ encodeFrom label (.start plain.length) true (insertions label)

/-- Carries out the insertions written in a text, of which there are fewer than `fuel`. -/
def decodeFrom? : Nat → Cursor → Bool → List Char → List Char → Option (List Char)
  | 0, _, _, _, _ => none
  | _ + 1, _, _, label, [] => some label
  | fuel + 1, k, isFirst, label, cs => do
    let (delta, rest) ← decodeNumber? k.bias 1 1 0 cs
    let total := k.position + delta
    let code := k.code + total / (k.count + 1)
    let position := total % (k.count + 1)
    if !code.isValidChar then none
    else
      decodeFrom? fuel (k.pass code position delta isFirst) false
        (label.insertIdx position (Char.ofNat code)) rest

/-- The label with the insertions that stand behind the last dash.  Without ASCII characters in
front of it there is no dash. -/
def decode? (cs : List Char) : Option (List Char) :=
  let inserted := (cs.reverse.takeWhile (· != '-')).reverse
  let plain := cs.take (cs.length - inserted.length - 1)
  if plain.isEmpty && inserted.length < cs.length then none
  else decodeFrom? (inserted.length + 1) (.start plain.length) true plain inserted

end PagedQuery.Url.Punycode
