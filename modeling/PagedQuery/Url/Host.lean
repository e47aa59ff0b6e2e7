import PagedQuery.Text.Utf8
import PagedQuery.Url.Label
import PagedQuery.Url.Percent

/-!
# PagedQuery.Url.Host

The hosts of addresses, in the one form in which they are sent: names in lower case, numeric
addresses in their shortest spelling.
-/

namespace PagedQuery.Url

/-! ## Numeric addresses of four parts -/

/-- The value of digits in some base, if there are any and all are digits of it. -/
def basedNumber? (base : Nat) (cs : List Char) : Option Nat :=
  if cs.isEmpty then none
  else
    cs.foldlM (fun n c => (Text.hexValue? c).bind fun d =>
      if d < base then some (n * base + d) else none) 0

/-- A part of a numeric address: decimal, octal with a zero in front, or hexadecimal. -/
def part? (cs : List Char) : Option Nat :=
  match cs with
  | '0' :: 'x' :: rest | '0' :: 'X' :: rest => if rest.isEmpty then some 0 else basedNumber? 16 rest
  | '0' :: c :: rest => basedNumber? 8 (c :: rest)
  | cs => basedNumber? 10 cs

/-- The parts of a name, without the empty one behind a dot at its end. -/
def nameParts (cs : List Char) : List (List Char) :=
  let parts := cs.splitOn '.'
  if 1 < parts.length && parts.getLast? == some [] then parts.dropLast else parts

/-- Whether a name has to be a numeric address: its last part looks like a number. -/
def endsInNumber (cs : List Char) : Bool :=
  match (nameParts cs).getLast? with
  | some last => (!last.isEmpty && last.all Char.isDigit) || (part? last).isSome
  | none => false

/-- The number that parts stand for, which fill `bytes` bytes: each is one byte, and the last
fills what is left. -/
def ipv4Value? : Nat → List Nat → Option Nat
  | bytes + 1, [last] => if last < 1 <<< (8 * (bytes + 1)) then some last else none
  | bytes + 1, n :: rest =>
    if n < 256 then (ipv4Value? bytes rest).map fun low => (n <<< (8 * bytes)) + low else none
  | _, _ => none

def ipv4Text (n : Nat) : List Char :=
  ['.'].intercalate ([24, 16, 8, 0].map fun place => Nat.toDigits 10 ((n >>> place) % 256))

def ipv4? (cs : List Char) : Option (List Char) := do
  let parts ← (nameParts cs).mapM part?
  (ipv4Value? 4 parts).map ipv4Text

/-! ## Numeric addresses of eight pieces -/

/-- A piece of one to four hexadecimal digits. -/
def piece? (cs : List Char) : Option Nat :=
  if 4 < cs.length then none else basedNumber? 16 cs

/-- A byte in decimal, without needless zeros. -/
def byte? (cs : List Char) : Option Nat :=
  match cs with
  | '0' :: _ :: _ => none
  | cs => if cs.all Char.isDigit then (basedNumber? 10 cs).filter (· < 256) else none

/-- Two pieces written as four bytes. -/
def dottedPieces? (cs : List Char) : Option (List Nat) :=
  match (cs.splitOn '.').mapM byte? with
  | some [a, b, c, d] => some [a * 256 + b, c * 256 + d]
  | _ => none

/-- Pieces between colons; the last may be two pieces written as four bytes. -/
def pieces? (cs : List Char) : Option (List Nat) :=
  if cs.isEmpty then some []
  else
    let texts := cs.splitOn ':'
    match texts.getLast? with
    | some last =>
      if last.contains '.' then do
        let front ← texts.dropLast.mapM piece?
        some (front ++ (← dottedPieces? last))
      else texts.mapM piece?
    | none => none

/-- What stands before and after the first doubled colon, if there is one. -/
def cutDoubleColon : List Char → Option (List Char × List Char)
  | ':' :: ':' :: rest => some ([], rest)
  | c :: rest => (cutDoubleColon rest).map fun (a, b) => (c :: a, b)
  | [] => none

/-- The eight pieces of an address; a doubled colon stands for zeros, one piece at least. -/
def ipv6Pieces? (cs : List Char) : Option (List Nat) :=
  match cutDoubleColon cs with
  | none => (pieces? cs).filter (·.length = 8)
  | some (front, back) => do
    let front ← if front.contains '.' then none else pieces? front
    let back ← pieces? back
    if front.length + back.length < 8 then
      some (front ++ List.replicate (8 - front.length - back.length) 0 ++ back)
    else none

/-- The length of the run of zeros at the front. -/
def zeroRun (pieces : List Nat) : Nat :=
  (pieces.takeWhile (· == 0)).length

/-- The start and length of the first longest run of two zeros or more. -/
def longestZeros (pieces : List Nat) : Option (Nat × Nat) :=
  let runs := (List.range pieces.length).map fun i => (i, zeroRun (pieces.drop i))
  runs.foldl (fun best run =>
    if 2 ≤ run.2 && (best.map Prod.snd).getD 0 < run.2 then some run else best) none

def ipv6Text (pieces : List Nat) : List Char :=
  let text (ps : List Nat) : List Char := [':'].intercalate (ps.map (Nat.toDigits 16))
  match longestZeros pieces with
  | none => text pieces
  | some (i, n) => text (pieces.take i) ++ ':' :: ':' :: text (pieces.drop (i + n))

/-! ## Names -/

/-- The characters that no host name may have. -/
def isForbiddenInName (c : Char) : Bool :=
  c.toNat ≤ 0x20 || c.toNat == 0x7F || c == '#' || c == '%' || c == '/' || c == ':' || c == '<'
    || c == '>' || c == '?' || c == '@' || c == '[' || c == '\\' || c == ']' || c == '^'
    || c == '|'

/-- The host of a scheme that needs one. -/
def host? (cs : List Char) : Option (List Char) :=
  match cs with
  | '[' :: rest =>
    if rest.getLast? = some ']' then
      (ipv6Pieces? rest.dropLast).map fun pieces => '[' :: ipv6Text pieces ++ [']']
    else none
  | cs => do
    let name ← asciiName? (Text.decodeLossy (percentDecode cs))
    if name.isEmpty || name.any isForbiddenInName then none
    else if endsInNumber name then ipv4? name
    else some name

/-- The host of any other scheme. -/
def opaqueHost? (cs : List Char) : Option (List Char) :=
  match cs with
  | '[' :: _ => host? cs
  | cs =>
    if cs.any fun c => isForbiddenInName c && c != '%' && c.toNat != 0x7F
        && (c.toNat == 0 || 0x20 ≤ c.toNat) then none
    else some (percentEncode isPrintableAscii cs)

end PagedQuery.Url
