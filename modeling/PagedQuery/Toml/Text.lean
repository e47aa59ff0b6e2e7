import PagedQuery.Text.Hex

/-!
# PagedQuery.Toml.Text

The texts of TOML: blanks, comments, strings and keys.  Each reader takes what stands at the
front and gives what follows it, or refuses.
-/

namespace PagedQuery.Toml

/-! ## Between the tokens -/

/-- Without the spaces and tabs at the front. -/
def skipSpaces (cs : List Char) : List Char :=
  cs.dropWhile fun c => c == ' ' || c == '\t'

/-- Whether a character may stand in comments and strings: no control other than the tab. -/
def isPlain (c : Char) : Bool :=
  c == '\t' || (0x20 ≤ c.toNat && c.toNat != 0x7F)

/-- What follows the end of a line. -/
def readNewline? : List Char → Option (List Char)
  | '\n' :: cs => some cs
  | '\r' :: '\n' :: cs => some cs
  | _ => none

/-- Without the comment at the front, if there is one. -/
def skipComment : List Char → List Char
  | '#' :: cs => cs.dropWhile isPlain
  | cs => cs

/-- What follows the line, of which only blanks and a comment may be left. -/
def endLine? (cs : List Char) : Option (List Char) :=
  match skipComment (skipSpaces cs) with
  | [] => some []
  | cs => readNewline? cs

/-- Without the blanks, comments and line ends at the front; the fuel bounds their number. -/
def skipLines : Nat → List Char → List Char
  | 0, cs => cs
  | fuel + 1, cs =>
    let cs := skipSpaces cs
    match readNewline? (skipComment cs) with
    | some rest => skipLines fuel rest
    | none => cs

/-! ## Strings -/

/-- A character named by `n` hexadecimal digits. -/
def readCodePoint? (n : Nat) (cs : List Char) : Option (Char × List Char) := do
  let (value, rest) ← Text.readHex? n 0 cs
  if h : value.isValidChar then some (Char.ofNatAux value h, rest) else none

/-- The character behind a backslash. -/
def readEscape? : List Char → Option (Char × List Char)
  | 'b' :: cs => some ('\x08', cs)
  | 't' :: cs => some ('\t', cs)
  | 'n' :: cs => some ('\n', cs)
  | 'f' :: cs => some ('\x0c', cs)
  | 'r' :: cs => some ('\r', cs)
  | '"' :: cs => some ('"', cs)
  | '\\' :: cs => some ('\\', cs)
  | 'u' :: cs => readCodePoint? 4 cs
  | 'U' :: cs => readCodePoint? 8 cs
  | _ => none

/-- The rest of a string on one line, up to the closing `quote`; only in double quotes are
there escapes.  `acc` holds the characters before, last first. -/
def readLine? (quote : Char) : Nat → List Char → List Char → Option (String × List Char)
  | 0, _, _ => none
  | _ + 1, _, [] => none
  | fuel + 1, acc, c :: cs =>
    if c = quote then some (String.ofList acc.reverse, cs)
    else if c = '\\' && quote = '"' then do
      let (e, rest) ← readEscape? cs
      readLine? quote fuel (e :: acc) rest
    else if isPlain c then readLine? quote fuel (c :: acc) cs
    else none

/-- What follows a backslash at the end of a line: all blanks and line ends up to the next
visible character are left out. -/
def skipContinuation? (cs : List Char) : Option (List Char) :=
  (readNewline? (skipSpaces cs)).map go
where
  go : List Char → List Char
    | '\r' :: '\n' :: cs => go cs
    | c :: cs => if c == ' ' || c == '\t' || c == '\n' then go cs else c :: cs
    | [] => []

/-- The rest of a string of several lines.  Three quotes close it; up to two more in front of
them belong to the string, as do one or two quotes elsewhere. -/
def readBlock? (quote : Char) : Nat → List Char → List Char → Option (String × List Char)
  | 0, _, _ => none
  | _ + 1, _, [] => none
  | fuel + 1, acc, c :: cs =>
    if c = quote then
      let run := min 5 (1 + (cs.takeWhile (· == quote)).length)
      if 3 ≤ run then
        some (String.ofList (List.replicate (run - 3) quote ++ acc).reverse, cs.drop (run - 1))
      else readBlock? quote fuel (List.replicate run quote ++ acc) (cs.drop (run - 1))
    else if c = '\\' && quote = '"' then
      match skipContinuation? cs with
      | some rest => readBlock? quote fuel acc rest
      | none => do
        let (e, rest) ← readEscape? cs
        readBlock? quote fuel (e :: acc) rest
    else
      match readNewline? (c :: cs) with
      | some rest => readBlock? quote fuel ('\n' :: acc) rest
      | none => if isPlain c then readBlock? quote fuel (c :: acc) cs else none

/-- A string in the given quotes, the first of which has been read.  A line end right behind
the opening quotes of a block is left out. -/
def readString? (quote : Char) (cs : List Char) : Option (String × List Char) :=
  match cs with
  | a :: b :: rest =>
    if a = quote && b = quote then
      readBlock? quote (rest.length + 1) [] ((readNewline? rest).getD rest)
    else readLine? quote (cs.length + 1) [] cs
  | cs => readLine? quote (cs.length + 1) [] cs

/-! ## Keys -/

/-- The characters of a key without quotes. -/
def isBare (c : Char) : Bool :=
  c.isAlphanum || c == '_' || c == '-'

/-- One part of a key. -/
def readSimpleKey? (cs : List Char) : Option (String × List Char) :=
  match cs with
  | '"' :: rest => readLine? '"' (rest.length + 1) [] rest
  | '\x27' :: rest => readLine? '\x27' (rest.length + 1) [] rest
  | cs =>
    let bare := cs.takeWhile isBare
    if bare.isEmpty then none else some (String.ofList bare, cs.dropWhile isBare)

/-- A key, with blanks around its parts; `acc` holds the parts before, last first. -/
def readParts? : Nat → List String → List Char → Option (List String × List Char)
  | 0, _, _ => none
  | fuel + 1, acc, cs => do
    let (part, rest) ← readSimpleKey? (skipSpaces cs)
    match skipSpaces rest with
    | '.' :: rest => readParts? fuel (part :: acc) rest
    | rest => some ((part :: acc).reverse, rest)

/-- Keys have fewer than this many parts, and values are nested less deep. -/
def depthLimit : Nat := 80

/-- A key of one part or several. -/
def readKey? (cs : List Char) : Option (List String × List Char) := do
  let (parts, rest) ← readParts? (cs.length + 1) [] cs
  if parts.length < depthLimit then some (parts, rest) else none

end PagedQuery.Toml
