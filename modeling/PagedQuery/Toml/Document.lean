import PagedQuery.Toml.Scalar
import PagedQuery.Toml.Text

/-!
# PagedQuery.Toml.Document

TOML documents.  A text is read into statements, one a line, which together make up a table.
-/

namespace PagedQuery.Toml

/-! ## Values -/

/-- Adds `key = value` inside braces, where the key may be dotted. -/
def assignInline (entries : Entries) (key : List String) (value : Toml) : Option Entries :=
  match key.getLast? with
  | some last => assign last value true false key.dropLast entries
  | none => none

mutual

/-- A value and what follows it.  `depth` bounds how deep arrays and braces may nest. -/
def readValue? : Nat → Nat → List Char → Option (Toml × List Char)
  | 0, _, _ => none
  | fuel + 1, depth, cs =>
    match cs with
    | '"' :: rest => (readString? '"' rest).map fun (s, rest) => (.text s, rest)
    | '\x27' :: rest => (readString? '\x27' rest).map fun (s, rest) => (.text s, rest)
    | '[' :: rest =>
      match depth with
      | 0 => none
      | depth + 1 => (readItems? fuel depth [] rest).map fun (vs, rest) => (.array vs, rest)
    | '\x7b' :: rest =>
      match depth with
      | 0 => none
      | depth + 1 =>
        match skipSpaces rest with
        | '\x7d' :: rest => some (.table .inline [], rest)
        | rest =>
          (readRows? fuel depth [] rest).map fun (rows, rest) => (.table .inline rows, rest)
    | 't' :: 'r' :: 'u' :: 'e' :: rest => some (.boolean true, rest)
    | 'f' :: 'a' :: 'l' :: 's' :: 'e' :: rest => some (.boolean false, rest)
    | cs => readScalar? cs

/-- The items of an array up to its closing bracket, behind those read before, last first. -/
def readItems? : Nat → Nat → List Toml → List Char → Option (List Toml × List Char)
  | 0, _, _, _ => none
  | fuel + 1, depth, acc, cs =>
    match skipLines cs.length cs with
    | ']' :: rest => some (acc.reverse, rest)
    | cs =>
      match readValue? fuel depth cs with
      | none => none
      | some (v, rest) =>
        match skipLines rest.length rest with
        | ',' :: rest => readItems? fuel depth (v :: acc) rest
        | ']' :: rest => some ((v :: acc).reverse, rest)
        | _ => none

/-- The rows of a table up to its closing brace, behind those read before. -/
def readRows? : Nat → Nat → Entries → List Char → Option (Entries × List Char)
  | 0, _, _, _ => none
  | fuel + 1, depth, acc, cs =>
    match readKey? cs with
    | some (key, '=' :: rest) =>
      match readValue? fuel depth (skipSpaces rest) with
      | none => none
      | some (v, rest) =>
        match assignInline acc key v with
        | none => none
        | some acc =>
          match skipSpaces rest with
          | ',' :: rest => readRows? fuel depth acc rest
          | '\x7d' :: rest => some (acc, rest)
          | _ => none
    | _ => none

end

/-! ## Statements -/

/-- What a line says. -/
inductive Statement where
  | assign (key : List String) (value : Toml)
  /-- The header of a table. -/
  | table (path : List String)
  /-- The header of one more table of an array. -/
  | item (path : List String)

/-- The statement at the front and what follows its line. -/
def readStatement? (cs : List Char) : Option (Statement × List Char) :=
  match cs with
  | '[' :: '[' :: rest => do
    match ← readKey? rest with
    | (path, ']' :: ']' :: rest) => some (.item path, ← endLine? rest)
    | _ => none
  | '[' :: rest => do
    match ← readKey? rest with
    | (path, ']' :: rest) => some (.table path, ← endLine? rest)
    | _ => none
  | cs => do
    match ← readKey? cs with
    | (key, '=' :: rest) =>
      let rest := skipSpaces rest
      let (value, rest) ← readValue? (2 * rest.length + 2) (depthLimit - 1) rest
      some (.assign key value, ← endLine? rest)
    | _ => none

/-- The statements of a text; `acc` holds those before, last first. -/
def readStatements? : Nat → List Statement → List Char → Option (List Statement)
  | 0, _, _ => none
  | fuel + 1, acc, cs =>
    match skipLines cs.length cs with
    | [] => some acc.reverse
    | cs =>
      if skipComment cs = [] then some acc.reverse
      else do
        let (s, rest) ← readStatement? cs
        readStatements? fuel (s :: acc) rest

/-! ## Documents -/

/-- A document under construction: its table, and the path of the latest header. -/
structure Draft where
  root : Entries
  path : List String

/-- Carries out one statement. -/
def Draft.add? (d : Draft) : Statement → Option Draft
  | .assign key value => do
    let last ← key.getLast?
    let root ← within (assign last value true false key.dropLast) d.path d.root
    some { d with root := root }
  | .table path => do
    let last ← path.getLast?
    some ⟨← within (openTable last) path.dropLast d.root, path⟩
  | .item path => do
    let last ← path.getLast?
    some ⟨← within (openItem last) path.dropLast d.root, path⟩

/-- The table that statements describe. -/
def ofStatements? (statements : List Statement) : Option Entries :=
  (statements.foldlM Draft.add? ⟨[], []⟩).map (·.root)

/-- The table of a document.  A byte order mark may stand at its start. -/
def ofText? (text : String) : Option Entries := do
  let cs := match text.toList with
    | '\uFEFF' :: cs => cs
    | cs => cs
  ofStatements? (← readStatements? (cs.length + 1) [] cs)

end PagedQuery.Toml
