import PagedQuery.Text.Hex

/-!
# PagedQuery.Url.Percent

Percent-encoding: characters that may not stand for themselves are written as the bytes of
their UTF-8 form, each as `%` and two digits.
-/

namespace PagedQuery.Url

/-- A digit of base sixteen, in upper case. -/
def hexDigit (n : Nat) : Char :=
  if n < 10 then Char.ofNat (48 + n) else Char.ofNat (55 + n)

def percentByte (b : UInt8) : List Char :=
  ['%', hexDigit (b.toNat / 16), hexDigit (b.toNat % 16)]

/-- The characters for which `keep` holds stand for themselves. -/
def percentEncode (keep : Char → Bool) (cs : List Char) : List Char :=
  cs.flatMap fun c => if keep c then [c] else (String.utf8EncodeChar c).flatMap percentByte

/-- The bytes that a percent-encoded text stands for; a `%` without two digits behind it stands
for itself. -/
def percentDecode : List Char → List UInt8
  | [] => []
  | [c] => String.utf8EncodeChar c
  | [c, d] => String.utf8EncodeChar c ++ String.utf8EncodeChar d
  | c :: d :: e :: rest =>
    match c == '%', Text.hexValue? d, Text.hexValue? e with
    | true, some x, some y => UInt8.ofNat (x * 16 + y) :: percentDecode rest
    | _, _, _ => String.utf8EncodeChar c ++ percentDecode (d :: e :: rest)

/-! ## Which characters are kept -/

/-- Neither a control nor outside of ASCII. -/
def isPrintableAscii (c : Char) : Bool :=
  0x20 ≤ c.toNat && c.toNat < 0x7F

/-- Kept in the fragment. -/
def keepInFragment (c : Char) : Bool :=
  isPrintableAscii c && !(c == ' ' || c == '"' || c == '<' || c == '>' || c == '\x60')

/-- Kept in a path of segments. -/
def keepInPath (c : Char) : Bool :=
  keepInFragment c && !(c == '#' || c == '?' || c == '\x7b' || c == '\x7d')

/-- Kept in the name and the password of a user. -/
def keepInUser (c : Char) : Bool :=
  keepInPath c && !(c == '/' || c == ':' || c == ';' || c == '=' || c == '@' || c == '['
    || c == '\\' || c == ']' || c == '^' || c == '|')

/-- Kept in the query; schemes with a host have the apostrophe encoded as well. -/
def keepInQuery (special : Bool) (c : Char) : Bool :=
  isPrintableAscii c && !(c == ' ' || c == '"' || c == '#' || c == '<' || c == '>')
    && !(special && c == '\x27')

/-! ## Forms -/

/-- Kept in the names and values of a form. -/
def keepInForm (c : Char) : Bool :=
  c.isAlphanum || c == '*' || c == '-' || c == '.' || c == '_'

/-- A name or value of a form, with plus signs for spaces. -/
def formEncode (s : String) : List Char :=
  s.toList.flatMap fun c =>
    if c = ' ' then ['+'] else percentEncode keepInForm [c]

/-- Names and values of a form, each pair with its equals sign. -/
def formPairs (params : List (String × String)) : List (List Char) :=
  params.map fun (k, v) => formEncode k ++ '=' :: formEncode v

end PagedQuery.Url
