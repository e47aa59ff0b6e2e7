import PagedQuery.Json.Number
import PagedQuery.Text.Hex

/-!
# PagedQuery.Json.Reader

Reading JSON text.  The grammar is the strict one: no comments, no trailing commas, no
unpaired surrogates, no bare controls in strings.  Of two members with one key the later value
stands in the place of the earlier one.
-/

namespace PagedQuery.Json

/-! ## Pieces of text -/

/-- Text without the blanks JSON allows between tokens. -/
def skipBlanks (cs : List Char) : List Char :=
  cs.dropWhile fun c => c == ' ' || c == '\n' || c == '\t' || c == '\r'

/-- The character behind `\u` and what follows it; a surrogate needs its partner. -/
def readUnicode? (cs : List Char) : Option (Char × List Char) := do
  let (n, rest) ← Text.readHex? 4 0 cs
  if 0xD800 ≤ n ∧ n < 0xDC00 then
    match rest with
    | '\\' :: 'u' :: rest' =>
      let (m, rest'') ← Text.readHex? 4 0 rest'
      if 0xDC00 ≤ m ∧ m < 0xE000 then
        some (Char.ofNat (0x10000 + (n - 0xD800) * 1024 + (m - 0xDC00)), rest'')
      else none
    | _ => none
  else if 0xDC00 ≤ n ∧ n < 0xE000 then none
  else some (Char.ofNat n, rest)

/-- The character of a one-letter escape. -/
def simpleEscape? : Char → Option Char
  | '"' => some '"' | '\\' => some '\\' | '/' => some '/'
  | 'b' => some '\x08' | 'f' => some '\x0c' | 'n' => some '\n' | 'r' => some '\r'
  | 't' => some '\t'
  | _ => none

/-- The rest of a string, behind its opening quote, and what follows it.  The fuel bounds the
number of characters read; `acc` holds those before, last first. -/
def readString? : Nat → List Char → List Char → Option (String × List Char)
  | 0, _, _ => none
  | fuel + 1, acc, cs =>
    match cs with
    | [] => none
    | '"' :: rest => some (String.ofList acc.reverse, rest)
    | '\\' :: 'u' :: rest => do
      let (c, rest') ← readUnicode? rest
      readString? fuel (c :: acc) rest'
    | '\\' :: e :: rest => do
      let c ← simpleEscape? e
      readString? fuel (c :: acc) rest
    | c :: rest => if c.toNat < 0x20 || c == '\\' then none else readString? fuel (c :: acc) rest

/-! ## Numbers -/

/-- The digits at the front, at least one, and what follows them. -/
def readDigits? (cs : List Char) : Option (List Char × List Char) :=
  let digits := cs.takeWhile Char.isDigit
  if digits.isEmpty then none else some (digits, cs.dropWhile Char.isDigit)

/-- The whole digits of a number: a leading zero stands alone. -/
def readWhole? (cs : List Char) : Option (List Char × List Char) :=
  match readDigits? cs with
  | some ('0' :: _ :: _, _) => none
  | r => r

def readFraction? : List Char → Option (Option (List Char) × List Char)
  | '.' :: cs => do
    let (digits, rest) ← readDigits? cs
    some (some digits, rest)
  | cs => some (none, cs)

def readExponent? (cs : List Char) : Option (Option Int × List Char) :=
  match cs with
  | c :: cs =>
    if c == 'e' || c == 'E' then do
      let (sign, cs) := match cs with
        | '+' :: cs => ((1 : Int), cs)
        | '-' :: cs => (-1, cs)
        | cs => (1, cs)
      let (digits, rest) ← readDigits? cs
      some (some (sign * Nat.ofDigitChars 10 digits 0), rest)
    else some (none, c :: cs)
  | [] => some (none, [])

/-- A number and what follows it. -/
def readNumber? (cs : List Char) : Option (Json × List Char) := do
  let (negative, cs) := match cs with
    | '-' :: cs => (true, cs)
    | cs => (false, cs)
  let (whole, cs) ← readWhole? cs
  let (fraction, cs) ← readFraction? cs
  let (exponent, cs) ← readExponent? cs
  let value ← Numeral.value? ⟨negative, whole, fraction, exponent⟩
  some (value, cs)

/-! ## Values -/

/-- What follows `word`, if the text starts with it. -/
def dropWord? : List Char → List Char → Option (List Char)
  | [], cs => some cs
  | w :: ws, c :: cs => if w = c then dropWord? ws cs else none
  | _ :: _, [] => none

mutual

/-- A value and what follows it.  `depth` bounds the nesting of arrays and objects, the fuel
the number of steps: each reads at least one character. -/
def readValue? : Nat → Nat → List Char → Option (Json × List Char)
  | 0, _, _ => none
  | fuel + 1, depth, cs =>
    match skipBlanks cs with
    | '"' :: rest => (readString? (fuel + 1) [] rest).map fun (s, rest) => (.text s, rest)
    | '[' :: rest =>
      if depth = 0 then none
      else
        match skipBlanks rest with
        | ']' :: rest => some (.array [], rest)
        | rest => (readItems? fuel (depth - 1) rest).map fun (vs, rest) => (.array vs, rest)
    | '\x7b' :: rest =>
      if depth = 0 then none
      else
        match skipBlanks rest with
        | '\x7d' :: rest => some (.object [], rest)
        | rest =>
          (readMembers? fuel (depth - 1) [] rest).map fun (ms, rest) => (.object ms, rest)
    | 'n' :: rest => (dropWord? ['u', 'l', 'l'] rest).map fun rest => (.null, rest)
    | 't' :: rest => (dropWord? ['r', 'u', 'e'] rest).map fun rest => (.bool true, rest)
    | 'f' :: rest => (dropWord? ['a', 'l', 's', 'e'] rest).map fun rest => (.bool false, rest)
    | cs => readNumber? cs

/-- The items of an array up to its closing bracket. -/
def readItems? : Nat → Nat → List Char → Option (List Json × List Char)
  | 0, _, _ => none
  | fuel + 1, depth, cs =>
    match readValue? fuel depth cs with
    | none => none
    | some (v, rest) =>
      match skipBlanks rest with
      | ',' :: rest => (readItems? fuel depth rest).map fun (vs, rest) => (v :: vs, rest)
      | ']' :: rest => some ([v], rest)
      | _ => none

/-- The members of an object up to its closing brace, put behind those read before. -/
def readMembers? : Nat → Nat → Members → List Char → Option (Members × List Char)
  | 0, _, _, _ => none
  | fuel + 1, depth, acc, cs =>
    match skipBlanks cs with
    | '"' :: rest =>
      match readString? (fuel + 1) [] rest with
      | none => none
      | some (key, rest) =>
        match skipBlanks rest with
        | ':' :: rest =>
          match readValue? fuel depth rest with
          | none => none
          | some (v, rest) =>
            match skipBlanks rest with
            | ',' :: rest => readMembers? fuel depth (Members.set acc key v) rest
            | '\x7d' :: rest => some (Members.set acc key v, rest)
            | _ => none
        | _ => none
    | _ => none

end

/-- The value a text stands for, if it is a JSON document with arrays and objects nested at
most `depth` deep. -/
def ofTextWithin? (depth : Nat) (text : String) : Option Json :=
  let cs := text.toList
  match readValue? (2 * cs.length + 2) depth cs with
  | some (v, rest) => if (skipBlanks rest).isEmpty then some v else none
  | none => none

/-- The value a text stands for, if it is a JSON document with at most 127 levels. -/
def ofText? (text : String) : Option Json :=
  ofTextWithin? 127 text

end PagedQuery.Json
