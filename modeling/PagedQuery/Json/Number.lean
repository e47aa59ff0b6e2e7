import PagedQuery.Json.Basic

/-!
# PagedQuery.Json.Number

The value of a JSON number.  Its digits are gathered into a significand of at most 64 bits,
later digits only counting towards the exponent; a double is this significand, scaled by one
multiplication with or division by a power of ten.
-/

namespace PagedQuery.Json

/-- A number as it is written: sign, whole digits, digits after the point, exponent. -/
structure Numeral where
  negative : Bool
  whole : List Char
  fraction : Option (List Char)
  exponent : Option Int

namespace Numeral

/-- A significand with its decimal exponent; `full` once a digit did not fit any more. -/
structure Significand where
  value : Nat
  exponent : Int
  full : Bool

/-- Takes one digit, each moving the exponent of a digit taken by `shift` and of one left out
by `lost`. -/
def Significand.take (shift lost : Int) (s : Significand) (digit : Char) : Significand :=
  let value := s.value * 10 + (digit.toNat - '0'.toNat)
  if s.full || UInt64.size ≤ value then { s with exponent := s.exponent + lost, full := true }
  else { s with value := value, exponent := s.exponent + shift }

def significand (n : Numeral) : Significand :=
  let whole := n.whole.foldl (Significand.take 0 1) ⟨0, 0, false⟩
  let all := (n.fraction.getD []).foldl (Significand.take (-1) 0) whole
  { all with exponent := all.exponent + n.exponent.getD 0 }

/-- `s * 10 ^ e` as a double, unless it is too large.  Powers beyond the range of doubles are
divided out in steps. -/
def scale (s : Nat) (e : Int) : Option Float :=
  let f := Float.ofNat s
  let power (k : Int) : Float := Float.ofScientific 1 false k.toNat
  if s = 0 then some f
  else if 308 < e then none
  else if 0 ≤ e then
    let product := f * power e
    if product.isInf then none else some product
  else if -308 ≤ e then some (f / power (-e))
  else if -616 ≤ e then some (f / power 308 / power (-e - 308))
  else some 0

/-- The value of a number: exact if it is whole and fits into 64 bits.  Zero with a sign is a
double, so that the sign is kept. -/
def value? (n : Numeral) : Option Json :=
  let s := n.significand
  let isWhole := n.fraction.isNone && n.exponent.isNone && !s.full
  if isWhole && !n.negative then some (.int s.value)
  else if isWhole && s.value ≠ 0 && Int64.minValue.toInt ≤ -s.value then some (.int (-s.value))
  else (scale s.value s.exponent).map fun f => .float (if n.negative then -f else f).toBits

end Numeral

end PagedQuery.Json
