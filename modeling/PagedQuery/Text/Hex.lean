/-!
# PagedQuery.Text.Hex

Hexadecimal digits.
-/

namespace PagedQuery.Text

/-- The value of a hexadecimal digit of either case. -/
def hexValue? (c : Char) : Option Nat :=
  let n := c.toNat
  if 48 ≤ n ∧ n ≤ 57 then some (n - 48)
  else if 65 ≤ n ∧ n ≤ 70 then some (n - 55)
  else if 97 ≤ n ∧ n ≤ 102 then some (n - 87)
  else none

/-- The number that the next `n` characters, all hexadecimal digits, add to `acc`, and what
follows them. -/
def readHex? : Nat → Nat → List Char → Option (Nat × List Char)
  | 0, acc, cs => some (acc, cs)
  | _ + 1, _, [] => none
  | n + 1, acc, c :: cs => (hexValue? c).bind fun d => readHex? n (acc * 16 + d) cs

end PagedQuery.Text
