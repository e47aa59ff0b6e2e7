/-!
# PagedQuery.Decimal.Binary64

Double-precision numbers, taken apart.  A number is held as its 64 bits, so that equality is
decidable and tells `0.0` from `-0.0`; `classify` says what the bits stand for.
-/

namespace PagedQuery.Decimal

/-- What a 64-bit pattern stands for.  A finite number that is not zero is `m * 2 ^ q`, up to
its sign, with `0 < m < 2 ^ 53`. -/
inductive Class where
  | nan
  | infinite (negative : Bool)
  | zero (negative : Bool)
  | finite (negative : Bool) (m : Nat) (q : Int)
deriving DecidableEq, Repr

/-- The leading bit of the `m` of most doubles, which is not among their bits. -/
def hiddenBit : Nat := 1 <<< 52

/-- The class of the double with these bits. -/
def classify (bits : UInt64) : Class :=
  let n : Nat := bits.toNat
  let negative : Bool := (n >>> 63) == 1
  let exponent : Nat := (n >>> 52) % 2048
  let fraction : Nat := n % hiddenBit
  if exponent = 2047 then if fraction = 0 then .infinite negative else .nan
  else if exponent = 0 then
    if fraction = 0 then .zero negative else .finite negative fraction (-1074)
  else .finite negative (hiddenBit + fraction) ((exponent : Int) - 1075)

/-- The bits of the double equal to the single-precision number with bits `b`; widening is
exact.  A fraction too small for a normal single becomes normal: its leading bit moves to the
hidden place and the exponent makes up for it. -/
def widen (b : UInt32) : UInt64 :=
  let n := b.toNat
  let sign := n >>> 31
  let exponent : Nat := (n >>> 23) % 256
  let fraction : Nat := n % (1 <<< 23)
  let pack (e f : Nat) : UInt64 := UInt64.ofNat ((sign <<< 63) + (e <<< 52) + f)
  if exponent = 255 then pack 2047 (fraction <<< 29)
  else if exponent = 0 then
    if fraction = 0 then pack 0 0
    else
      let top := fraction.log2
      pack (874 + top) ((fraction - (1 <<< top)) <<< (52 - top))
  else pack (exponent + 896) (fraction <<< 29)

end PagedQuery.Decimal
