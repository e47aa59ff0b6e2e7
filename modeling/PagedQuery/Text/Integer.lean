/-!
# PagedQuery.Text.Integer

Reading integers of 64 bits from decimal text.  Leading zeros and a plus sign are allowed, a
minus sign only where negative numbers are; anything else, a number that does not fit included,
is refused.
-/

namespace PagedQuery.Text

/-- The value of a text of digits, of which there must be at least one. -/
def digits? (cs : List Char) : Option Nat :=
  if cs.isEmpty || !cs.all Char.isDigit then none else some (Nat.ofDigitChars 10 cs 0)

/-- A text without its plus sign. -/
def dropPlus : List Char → List Char
  | '+' :: cs => cs
  | cs => cs

/-- An unsigned integer. -/
def uint64? (cs : List Char) : Option UInt64 := do
  let n ← digits? (dropPlus cs)
  if n < UInt64.size then some (UInt64.ofNat n) else none

/-- An integer as a signed word, if it fits. -/
def toInt64? (n : Int) : Option Int64 :=
  if Int64.minValue.toInt ≤ n ∧ n ≤ Int64.maxValue.toInt then some (Int64.ofInt n) else none

/-- A signed integer. -/
def int64? (cs : List Char) : Option Int64 :=
  match cs with
  | '-' :: cs => (digits? cs).bind fun n => toInt64? (-n)
  | cs => (digits? (dropPlus cs)).bind fun n => toInt64? n

end PagedQuery.Text
