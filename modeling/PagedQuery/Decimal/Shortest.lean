import PagedQuery.Decimal.Binary64

/-!
# PagedQuery.Decimal.Shortest

The shortest decimal that reads back as a given double.  The reals that round to `m * 2 ^ q`
form an interval around it, with its ends exactly if `m` is even.  On the grid of decimals
with `k` digits the value has two neighbours; the first `k` for which one of them lies in the
interval fixes the number of digits, and of two such neighbours the nearer is taken, the upper
one if they are equally near.
-/

namespace PagedQuery.Decimal

/-- The power of ten with this exponent. -/
def tenTo (k : Nat) : Nat := Nat.pow 10 k

/-- The number `digits * 10 ^ exponent`. -/
structure Scientific where
  digits : Nat
  exponent : Int
deriving DecidableEq, Repr

/-- The reals that round to a double, as multiples of one positive unit `1 / den`: the value
is `mid / den`, the interval goes from `low / den` to `high / den`. -/
structure Interval where
  low : Nat
  mid : Nat
  high : Nat
  den : Nat
  closed : Bool

/-- The interval of `m * 2 ^ q`.  Below a power of two the next double is only half as far
away as above it, unless the exponent is already the least one. -/
def Interval.around (m : Nat) (q : Int) : Interval :=
  let narrow := m = hiddenBit ∧ -1074 < q
  let up := (q - 2).toNat
  { low := (if narrow then 4 * m - 1 else 4 * m - 2) <<< up
    mid := (4 * m) <<< up
    high := (4 * m + 2) <<< up
    den := 1 <<< (2 - q).toNat
    closed := m % 2 == 0 }

/-- The number of decimal digits of `n`, none for zero. -/
def digitCount (n : Nat) : Nat :=
  if n = 0 then 0 else (Nat.toDigits 10 n).length

/-- The exponent `p` with `10 ^ p ≤ mid / den < 10 ^ (p + 1)`. -/
def Interval.magnitude (v : Interval) : Int :=
  if v.den ≤ v.mid then (digitCount (v.mid / v.den) : Int) - 1
  else -(digitCount ((v.den + v.mid - 1) / v.mid - 1) : Int)

/-- Whether `d * num / den'` lies in the interval, for a grid of step `num / den'`. -/
def Interval.holds (v : Interval) (d num den' : Nat) : Bool :=
  let x := d * num * v.den
  let low := v.low * den'
  let high := v.high * den'
  if v.closed then decide (low ≤ x) && decide (x ≤ high) else decide (low < x) && decide (x < high)

/-- The decimal with exponent `e` in the interval that is nearest to its middle. -/
def Interval.nearest? (v : Interval) (e : Int) : Option Scientific :=
  let num := tenTo e.toNat
  let den' := tenTo (-e).toNat
  let below := v.mid * den' / (v.den * num)
  let twice := 2 * (v.mid * den') - 2 * (below * v.den * num)
  match v.holds below num den', v.holds (below + 1) num den' with
  | true, true => some ⟨if twice < v.den * num then below else below + 1, e⟩
  | true, false => some ⟨below, e⟩
  | false, true => some ⟨below + 1, e⟩
  | false, false => none

/-- A single digit carried to ten is written as one of the next place. -/
def Scientific.carry (s : Scientific) : Scientific :=
  if s.digits = 10 then ⟨1, s.exponent + 1⟩ else s

/-- The first decimal found when the number of digits grows from `17 - left`, starting with
exponent `e`; after seventeen digits the value's lower neighbour is taken as it is. -/
def Interval.search (v : Interval) (e : Int) : Nat → Scientific
  | 0 => ⟨v.mid * tenTo (-e).toNat / (v.den * tenTo e.toNat), e⟩
  | left + 1 =>
    match v.nearest? e with
    | some s => s.carry
    | none => v.search (e - 1) left

/-- The shortest decimal that reads back as `m * 2 ^ q`, for `0 < m`. -/
def shortest (m : Nat) (q : Int) : Scientific :=
  let v := Interval.around m q
  v.search v.magnitude 17

end PagedQuery.Decimal
