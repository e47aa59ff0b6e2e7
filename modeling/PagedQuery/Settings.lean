import PagedQuery.ClientError
import PagedQuery.Text.Blank
import PagedQuery.Toml.Document

/-!
# PagedQuery.Settings

The settings of a client, and the file they are read from.
-/

namespace PagedQuery

structure Settings where
  endpoint : String
  timeoutSeconds : Nat
  pageSize : Nat
  /-- Sent with every request; the names are distinct and in order. -/
  headers : List (String × String)
deriving DecidableEq, Repr

namespace Settings

def default : Settings where
  endpoint := "http://localhost:8000"
  timeoutSeconds := 30
  pageSize := 100
  headers := []

/-- What makes the settings unusable, if anything does; a missing endpoint is found first. -/
def problem? (s : Settings) : Option SettingsProblem :=
  if Text.trim s.endpoint = "" then some .emptyEndpoint
  else if s.pageSize = 0 then some .zeroPageSize
  else none

/-- Headers in the order of their names. -/
def sortHeaders (headers : List (String × String)) : List (String × String) :=
  headers.mergeSort fun a b => decide (a.1 ≤ b.1)

/-! ## Settings from a file -/

/-- Why a file gives no settings. -/
inductive LoadError where
  /-- There is no such file, or it is not text. -/
  | unreadable
  /-- It is no TOML document, or something in it has the wrong type. -/
  | unparsable
  | invalid (problem : SettingsProblem)
deriving DecidableEq, Repr

/-- The message about the file of this name. -/
def LoadError.message (name : String) : LoadError → String
  | .unreadable => "Failed to read config file: " ++ name
  | .unparsable => "Failed to parse config file: " ++ name
  | .invalid problem => problem.message

/-- A setting that is a natural number, with its value if it is not given. -/
def number? (rows : Toml.Entries) (key : String) (missing : Nat) : Option Nat :=
  match Toml.Entries.get? rows key with
  | none => some missing
  | some (.integer n) => if 0 ≤ n.toInt then some n.toInt.toNat else none
  | some _ => none

/-- A header in a file: a row whose value is a text. -/
def header? : String × Toml → Option (String × String)
  | (name, .text value) => some (name, value)
  | _ => none

/-- The name of the one header that a date or time in the place of the headers makes. -/
def dateTimeHeader : String := "$__toml_private_datetime"

/-- The headers in a file, if there are any. -/
def headers? (rows : Toml.Entries) : Option (List (String × String)) :=
  match Toml.Entries.get? rows "headers" with
  | none => some []
  | some (.table _ inner) => (inner.mapM header?).map sortHeaders
  | some (.dateTime value) => some [(dateTimeHeader, value)]
  | some _ => none

/-- The settings that the table of a document holds.  The endpoint must be given; what is not
known is passed over. -/
def ofEntries? (rows : Toml.Entries) : Option Settings := do
  let endpoint ← match Toml.Entries.get? rows "endpoint" with
    | some (.text s) => some s
    | _ => none
  some {
    endpoint := endpoint
    timeoutSeconds := ← number? rows "timeout_seconds" default.timeoutSeconds
    pageSize := ← number? rows "page_size" default.pageSize
    headers := ← headers? rows }

/-- The settings in a file with this content, if there is one. -/
def load (content : Option ByteArray) : Except LoadError Settings :=
  match content.bind String.fromUTF8? with
  | none => .error .unreadable
  | some text =>
    match (Toml.ofText? text).bind ofEntries? with
    | none => .error .unparsable
    | some s =>
      match s.problem? with
      | some problem => .error (.invalid problem)
      | none => .ok s

end Settings

end PagedQuery
