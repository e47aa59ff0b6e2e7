import PagedQuery.Decimal.Binary64
import PagedQuery.Decimal.Shortest

/-!
# PagedQuery.Decimal.Layout

The text of a double.  The digits are always the shortest that read back; a `Layout` says
how they are laid out.
-/

namespace PagedQuery.Decimal

/-- A way to lay out digits.  The *point* of a number is the place of its decimal point,
counted from the first digit: 12.5 has point 2 and 0.05 has point -1. -/
structure Layout where
  /-- The points with which a number is written without an exponent. -/
  positional : Int → Bool
  /-- The points with which a whole number keeps a fractional zero. -/
  fractional : Int → Bool

/-- Digits with the point put in at its place and the gaps filled with zeros. -/
def Layout.place (style : Layout) (digits : List Char) (point : Int) : List Char :=
  let n : Int := digits.length
  if point ≤ 0 then '0' :: '.' :: (List.replicate (-point).toNat '0' ++ digits)
  else if point < n then digits.take point.toNat ++ '.' :: digits.drop point.toNat
  else
    digits ++ List.replicate (point - n).toNat '0'
      ++ (if style.fractional point then ['.', '0'] else [])

/-- Digits with the point after the first one, and the exponent this leaves. -/
def exponential (digits : List Char) (point : Int) : List Char :=
  let fraction := digits.drop 1
  digits.take 1 ++ (if fraction.isEmpty then [] else '.' :: fraction)
    ++ 'e' :: (toString (point - 1)).toList

/-- The text of the positive number `m * 2 ^ q`. -/
def Layout.magnitude (style : Layout) (m : Nat) (q : Int) : List Char :=
  let s := shortest m q
  let digits := Nat.toDigits 10 s.digits
  let point := s.exponent + digits.length
  if style.positional point then style.place digits point else exponential digits point

/-- The text of the double with these bits. -/
def Layout.text (style : Layout) (bits : UInt64) : String :=
  let signed (negative : Bool) (body : List Char) :=
    String.ofList (if negative then '-' :: body else body)
  match classify bits with
  | .nan => "NaN"
  | .infinite negative => signed negative ['i', 'n', 'f']
  | .zero negative => signed negative ['0', '.', '0']
  | .finite negative m q => signed negative (style.magnitude m q)

end PagedQuery.Decimal
