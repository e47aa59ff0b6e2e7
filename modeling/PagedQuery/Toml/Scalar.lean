import PagedQuery.Text.Blank
import PagedQuery.Text.Integer
import PagedQuery.Toml.Basic

/-!
# PagedQuery.Toml.Scalar

Numbers, dates and times of TOML.
-/

namespace PagedQuery.Toml

/-! ## Digits -/

/-- Digits that satisfy `p`, with single underscores between them, and what follows them.  The
underscores are left out. -/
def readDigits? (p : Char → Bool) (cs : List Char) : Option (List Char × List Char) :=
  match cs with
  | c :: cs => if p c then some (go [c] cs) else none
  | [] => none
where
  go (acc : List Char) : List Char → List Char × List Char
    | '_' :: c :: cs => if p c then go (c :: acc) cs else (acc.reverse, '_' :: c :: cs)
    | c :: cs => if p c then go (c :: acc) cs else (acc.reverse, c :: cs)
    | [] => (acc.reverse, [])

/-- The number written by digits in some base. -/
def digitsValue (base : Nat) (digits : List Char) : Nat :=
  digits.foldl (fun n c =>
    let d := if c.isDigit then c.toNat - 48 else if c.isUpper then c.toNat - 55 else c.toNat - 87
    n * base + d) 0

def isHexDigit (c : Char) : Bool :=
  c.isDigit || ('a' ≤ c && c ≤ 'f') || ('A' ≤ c && c ≤ 'F')

/-! ## Integers and floats -/

/-- A sign, if there is one. -/
def readSign : List Char → Bool × List Char
  | '-' :: cs => (true, cs)
  | '+' :: cs => (false, cs)
  | cs => (false, cs)

/-- Decimal digits of a whole number: a leading zero stands alone. -/
def readWhole? (cs : List Char) : Option (List Char × List Char) :=
  match cs with
  | '0' :: rest => some (['0'], rest)
  | cs => readDigits? Char.isDigit cs

/-- An integer of 64 bits. -/
def fitInteger? (n : Int) : Option Toml :=
  (Text.toInt64? n).map .integer

/-- An integer; a base other than ten has a mark in front and no sign. -/
def readInteger? (cs : List Char) : Option (Toml × List Char) :=
  let based (base : Nat) (p : Char → Bool) (cs : List Char) : Option (Toml × List Char) := do
    let (digits, rest) ← readDigits? p cs
    some (← fitInteger? (digitsValue base digits), rest)
  match cs with
  | '0' :: 'x' :: cs => based 16 isHexDigit cs
  | '0' :: 'o' :: cs => based 8 (fun c => '0' ≤ c && c ≤ '7') cs
  | '0' :: 'b' :: cs => based 2 (fun c => c == '0' || c == '1') cs
  | cs => do
    let (negative, cs) := readSign cs
    let (digits, rest) ← readWhole? cs
    let n : Int := digitsValue 10 digits
    some (← fitInteger? (if negative then -n else n), rest)

/-- Whether the positive number `m * 10 ^ e` is too large for a double: whether it rounds to
`2 ^ 1024` or more. -/
def isTooLarge (m : Nat) (e : Int) : Bool :=
  let places : Int := (Nat.toDigits 10 m).length + e
  if m = 0 || places < 300 then false
  else if 320 < places then true
  else decide (((1 <<< 1024) - (1 <<< 970)) * Nat.pow 10 (-e).toNat ≤ m * Nat.pow 10 e.toNat)

/-- The digits behind a decimal point, if there is one. -/
def readFraction? : List Char → Option (List Char × List Char)
  | '.' :: cs => readDigits? Char.isDigit cs
  | cs => some ([], cs)

/-- The exponent, if there is one. -/
def readExponent? : List Char → Option (Option Int × List Char)
  | c :: cs =>
    if c == 'e' || c == 'E' then do
      let (negative, cs) := readSign cs
      let (digits, rest) ← readDigits? Char.isDigit cs
      let n : Int := digitsValue 10 digits
      some (some (if negative then -n else n), rest)
    else some (none, c :: cs)
  | [] => some (none, [])

/-- A float: a number with a fraction or an exponent, or one of the special ones. -/
def readFloat? (cs : List Char) : Option (Toml × List Char) :=
  let (negative, body) := readSign cs
  match body with
  | 'i' :: 'n' :: 'f' :: rest => some (.float (cs.take (cs.length - rest.length)), rest)
  | 'n' :: 'a' :: 'n' :: rest => some (.float (cs.take (cs.length - rest.length)), rest)
  | body => do
    let (whole, rest) ← readWhole? body
    let (fraction, rest) ← readFraction? rest
    let (exponent, rest) ← readExponent? rest
    if fraction.isEmpty && exponent.isNone then none
    else if !negative && isTooLarge (digitsValue 10 (whole ++ fraction))
        (exponent.getD 0 - fraction.length) then none
    else some (.float (cs.take (cs.length - rest.length)), rest)

/-! ## Dates and times -/

/-- A number of exactly `n` digits between two bounds. -/
def readField? (n low high : Nat) (cs : List Char) : Option (Nat × List Char) :=
  let digits := cs.take n
  let value := digitsValue 10 digits
  if digits.length = n && digits.all Char.isDigit && low ≤ value && value ≤ high then
    some (value, cs.drop n)
  else none

def isLeapYear (year : Nat) : Bool :=
  year % 4 == 0 && (year % 100 != 0 || year % 400 == 0)

def daysIn (year month : Nat) : Nat :=
  if month = 2 then if isLeapYear year then 29 else 28
  else if month = 4 || month = 6 || month = 9 || month = 11 then 30
  else 31

/-- What follows `c`. -/
def expect? (c : Char) : List Char → Option (List Char)
  | d :: cs => if d = c then some cs else none
  | [] => none

/-- A date and what follows it. -/
def readDate? (cs : List Char) : Option (List Char × List Char) := do
  let (year, rest) ← readField? 4 0 9999 cs
  let rest ← expect? '-' rest
  let (month, rest) ← readField? 2 1 12 rest
  let rest ← expect? '-' rest
  let (_, rest) ← readField? 2 1 (daysIn year month) rest
  some (cs.take 10, rest)

/-- The fraction of a second, if there is one, and what follows it.  No more than nine digits of
it count, and no zeros at its end. -/
def readSecondFraction? : List Char → Option (List Char × List Char)
  | '.' :: cs =>
    let digits := cs.takeWhile Char.isDigit
    if digits.isEmpty then none
    else
      let kept := Text.dropEndWhile (· == '0') (digits.take 9)
      some (if kept.isEmpty then [] else '.' :: kept, cs.dropWhile Char.isDigit)
  | cs => some ([], cs)

/-- A time of day and what follows it; leap seconds are allowed. -/
def readTime? (cs : List Char) : Option (List Char × List Char) := do
  let (_, rest) ← readField? 2 0 23 cs
  let rest ← expect? ':' rest
  let (_, rest) ← readField? 2 0 59 rest
  let rest ← expect? ':' rest
  let (_, rest) ← readField? 2 0 60 rest
  let (fraction, rest) ← readSecondFraction? rest
  some (cs.take 8 ++ fraction, rest)

/-- The distance from Greenwich time, if there is one, and what follows it.  No distance lies
east. -/
def readOffset? : List Char → Option (List Char × List Char)
  | 'Z' :: cs | 'z' :: cs => some (['Z'], cs)
  | sign :: cs =>
    if sign == '+' || sign == '-' then do
      let (hours, rest) ← readField? 2 0 23 cs
      let rest ← expect? ':' rest
      let (minutes, rest) ← readField? 2 0 59 rest
      some ((if hours + minutes = 0 then '+' else sign) :: cs.take 5, rest)
    else some ([], sign :: cs)
  | [] => some ([], [])

/-- A time of day behind a date, and the distance from Greenwich time. -/
def readDayTime? (date cs : List Char) : Option (List Char × List Char) := do
  let (time, rest) ← readTime? cs
  let (offset, rest) ← readOffset? rest
  some (date ++ 'T' :: time ++ offset, rest)

/-- A date, a time, or both with a `T` or a space between them. -/
def readDateTime? (cs : List Char) : Option (Toml × List Char) := do
  let (written, rest) ← match readDate? cs with
    | none => readTime? cs
    | some (date, rest) =>
      match rest with
      | c :: time =>
        if c == 'T' || c == 't' then readDayTime? date time
        else if c == ' ' && (readTime? time).isSome then readDayTime? date time
        else some (date, rest)
      | [] => some (date, [])
  some (.dateTime (String.ofList written), rest)

/-- A number, a date or a time. -/
def readScalar? (cs : List Char) : Option (Toml × List Char) :=
  match readDateTime? cs with
  | some r => some r
  | none =>
    match readFloat? cs with
    | some r => some r
    | none => readInteger? cs

end PagedQuery.Toml
