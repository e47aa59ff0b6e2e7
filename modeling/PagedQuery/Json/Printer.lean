import PagedQuery.Decimal.Layout
import PagedQuery.Json.Basic
import PagedQuery.Text.Pieces
import PagedQuery.Text.Quoted

/-!
# PagedQuery.Json.Printer

Compact JSON text: no blanks, members in their order, and only those characters escaped that
must be.
-/

namespace PagedQuery.Json

/-- One character of a string. -/
def escapeChar (c : Char) : String :=
  if c = '"' then "\\\""
  else if c = '\\' then "\\\\"
  else if c = '\x08' then "\\b"
  else if c = '\x0c' then "\\f"
  else if c = '\n' then "\\n"
  else if c = '\r' then "\\r"
  else if c = '\t' then "\\t"
  else if c.toNat < 0x10 then "\\u000" ++ Text.hexText c.toNat
  else if c.toNat < 0x20 then "\\u00" ++ Text.hexText c.toNat
  else String.singleton c

def quote (s : String) : String :=
  s.foldl (fun acc c => acc ++ escapeChar c) "\"" ++ "\""

/-- Numbers from `0.00001` up to below `10 ^ 16` are written without an exponent, and whole
ones keep a fractional zero. -/
def floatLayout : Decimal.Layout where
  positional point := decide (-5 < point) && decide (point ≤ 16)
  fractional _ := true

mutual

/-- The compact text of a value. -/
def render : Json → String
  | .null => "null"
  | .bool b => if b then "true" else "false"
  | .int n => toString n
  | .float bits => floatLayout.text bits
  | .text s => quote s
  | .array items => "[" ++ Text.join "," (renderItems items) ++ "]"
  | .object members => "\x7b" ++ Text.join "," (renderMembers members) ++ "\x7d"

def renderItems : List Json → List String
  | [] => []
  | v :: vs => v.render :: renderItems vs

def renderMembers : List (String × Json) → List String
  | [] => []
  | (k, v) :: rest => (quote k ++ ":" ++ v.render) :: renderMembers rest

end

end PagedQuery.Json
