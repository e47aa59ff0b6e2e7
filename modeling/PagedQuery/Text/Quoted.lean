import PagedQuery.Text.Bounds
import PagedQuery.Text.Extending
import PagedQuery.Text.Printable

/-!
# PagedQuery.Text.Quoted

Text between double quotes, as diagnostics show it.  A quote, a backslash and five controls
have short escapes; a character that cannot be seen by itself is written as its code point;
all others stand for themselves.
-/

namespace PagedQuery.Text

/-- Whether `c` is shown as itself: it has a printed form and does not extend its neighbour. -/
def isVisible (c : Char) : Bool :=
  let n := c.toNat
  if n < 0x7F then decide (0x20 ≤ n)
  else withinBounds printableBounds n && !withinBounds extendingBounds n

/-- `n` in base sixteen, in lower case and without padding. -/
def hexText (n : Nat) : String :=
  String.ofList (Nat.toDigits 16 n)

/-- One character inside a quoted text. -/
def escape (c : Char) : String :=
  if c = '"' then "\\\""
  else if c = '\\' then "\\\\"
  else if c = '\n' then "\\n"
  else if c = '\r' then "\\r"
  else if c = '\t' then "\\t"
  else if c.toNat = 0 then "\\0"
  else if isVisible c then String.singleton c
  else "\\u\x7b" ++ hexText c.toNat ++ "\x7d"

/-- `s` between double quotes. -/
def quoted (s : String) : String :=
  "\"" ++ s.toList.foldr (fun c rest => escape c ++ rest) "\""

/-- Quoted pieces in brackets. -/
def quotedList (pieces : List String) : String :=
  "[" ++ ", ".intercalate (pieces.map quoted) ++ "]"

end PagedQuery.Text
