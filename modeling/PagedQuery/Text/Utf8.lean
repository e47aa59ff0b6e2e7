/-!
# PagedQuery.Text.Utf8

UTF-8 that may be ill-formed.  A run of bytes that starts a character and breaks off, or a byte
that starts none, is read as one replacement character.
-/

namespace PagedQuery.Text

/-- What the first byte of a character of more than one byte says: how many bytes follow,
between which bounds the first of them lies, and the leading bits of the character. -/
structure LeadByte where
  tail : Nat
  low : Nat
  high : Nat
  bits : Nat

/-- The first bytes of well-formed characters; the bounds rule out surrogates, characters past
the last one and spellings longer than needed. -/
def leadByte? (b : Nat) : Option LeadByte :=
  if 0xC2 ≤ b ∧ b ≤ 0xDF then some ⟨1, 0x80, 0xBF, b - 0xC0⟩
  else if b = 0xE0 then some ⟨2, 0xA0, 0xBF, 0⟩
  else if b = 0xED then some ⟨2, 0x80, 0x9F, 0xD⟩
  else if 0xE1 ≤ b ∧ b ≤ 0xEF then some ⟨2, 0x80, 0xBF, b - 0xE0⟩
  else if b = 0xF0 then some ⟨3, 0x90, 0xBF, 0⟩
  else if 0xF1 ≤ b ∧ b ≤ 0xF3 then some ⟨3, 0x80, 0xBF, b - 0xF0⟩
  else if b = 0xF4 then some ⟨3, 0x80, 0x8F, 4⟩
  else none

/-- Reads `n` more bytes of a character, the first of them between two bounds.  Gives the
character, or nothing if it breaks off, and the bytes that were not used. -/
def readTail : Nat → Nat → Nat → Nat → List UInt8 → Option Char × List UInt8
  | 0, _, _, bits, bytes => (some (Char.ofNat bits), bytes)
  | _ + 1, _, _, _, [] => (none, [])
  | n + 1, low, high, bits, b :: bytes =>
    if low ≤ b.toNat ∧ b.toNat ≤ high then
      readTail n 0x80 0xBF (bits * 64 + (b.toNat - 0x80)) bytes
    else (none, b :: bytes)

theorem length_readTail_le (n low high bits : Nat) (bytes : List UInt8) :
    (readTail n low high bits bytes).2.length ≤ bytes.length := by
  induction n generalizing low high bits bytes with
  | zero => simp [readTail]
  | succ n ih =>
    cases bytes with
    | nil => simp [readTail]
    | cons b bytes =>
      simp only [readTail]
      split
      · exact Nat.le_succ_of_le (ih ..)
      · simp

/-- The characters of bytes that may be ill-formed. -/
def decodeLossy : List UInt8 → List Char
  | [] => []
  | b :: bytes =>
    if b.toNat < 0x80 then Char.ofNat b.toNat :: decodeLossy bytes
    else
      match leadByte? b.toNat with
      | none => '\uFFFD' :: decodeLossy bytes
      | some lead =>
        have := length_readTail_le lead.tail lead.low lead.high lead.bits bytes
        let r := readTail lead.tail lead.low lead.high lead.bits bytes
        r.1.getD '\uFFFD' :: decodeLossy r.2
termination_by bytes => bytes.length

end PagedQuery.Text
