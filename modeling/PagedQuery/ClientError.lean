import PagedQuery.Filter.Error
import PagedQuery.Json.Printer

/-!
# PagedQuery.ClientError

What can go wrong between building a view and reading its records.  Each constructor is a
cause; `message` gives its wording.
-/

namespace PagedQuery

/-- The lists of field names a view has. -/
inductive FieldUse where
  | select | ordering | projection
deriving DecidableEq, Repr

def FieldUse.name : FieldUse → String
  | .select => "select"
  | .ordering => "ordering"
  | .projection => "projection"

/-- What is wrong with the settings of a client. -/
inductive SettingsProblem where
  | emptyEndpoint
  | zeroPageSize
deriving DecidableEq, Repr

def SettingsProblem.message : SettingsProblem → String
  | .emptyEndpoint => "endpoint must not be empty"
  | .zeroPageSize => "page_size must be positive"

/-- An argument that is refused before anything is sent. -/
inductive BadInput where
  | emptyRawFilter
  | fieldName (use : FieldUse) (field : String)
  | zeroPageSize
  /-- Moving a window to this offset leaves the range of offsets. -/
  | windowOverflow (offset : Nat)
  | sliceOverflow
  | reversedSlice (start stop : Nat)
  | settings (problem : SettingsProblem)
  | headerName (name : String)
  | headerValue (name : String)
  | other (message : String)
deriving DecidableEq, Repr

def BadInput.message : BadInput → String
  | .emptyRawFilter => "Raw filter must not be empty"
  | .fieldName use field => "Invalid " ++ use.name ++ " field name: " ++ Text.quoted field
  | .zeroPageSize => "Page size must be positive"
  | .windowOverflow offset => "Offset " ++ toString offset ++ " overflows the window"
  | .sliceOverflow => "Slice bounds overflow the record offset"
  | .reversedSlice start stop =>
    "Slice start " ++ toString start ++ " is past its stop " ++ toString stop
  | .settings problem => problem.message
  | .headerName name => "Invalid header name " ++ Text.quoted name ++ ": invalid HTTP header name"
  | .headerValue name =>
    "Invalid value for header " ++ name ++ ": failed to parse header value"
  | .other message => message

/-- A response that cannot be understood. -/
inductive BadResponse where
  /-- A range header of the wrong form. -/
  | range (header : String)
  /-- A range header with characters outside of visible ASCII. -/
  | rangeText
  /-- A body that is no JSON document. -/
  | body
  /-- A page that is no array, asked for at this address. -/
  | notArray (url : String) (found : Json)
  | other (message : String)
deriving DecidableEq

def BadResponse.message : BadResponse → String
  | .range header => "Invalid Content-Range header: " ++ Text.quoted header
  | .rangeText => "Invalid Content-Range: failed to convert header to a str"
  | .body => "error decoding response body"
  | .notArray url found => "Expected a JSON array from " ++ url ++ ", got " ++ found.render
  | .other message => message

/-- A request that found no answer. -/
inductive NoResponse where
  /-- The request could not be made, for the address if it is one. -/
  | unusable (url : Option String)
  /-- The request was not answered. -/
  | unanswered (url : String)
  | other (message : String)
deriving DecidableEq, Repr

def NoResponse.message : NoResponse → String
  | .unusable none => "builder error"
  | .unusable (some url) => "builder error for url (" ++ url ++ ")"
  | .unanswered url => "error sending request for url (" ++ url ++ ")"
  | .other message => message

inductive ClientError where
  | invalidInput (problem : BadInput)
  | expression (problem : Filter.Error)
  /-- The server answered with a status from 400 to 599. -/
  | remote (status : Nat) (body : String)
  | transport (problem : NoResponse)
  | decode (problem : BadResponse)
deriving DecidableEq

namespace ClientError

def message : ClientError → String
  | .invalidInput problem => "Invalid input: " ++ problem.message
  | .expression problem => "Invalid expression: " ++ problem.message
  | .remote status body => "Remote API error (" ++ toString status ++ "): " ++ body
  | .transport problem => "Transport error: " ++ problem.message
  | .decode problem => "Failed to decode response: " ++ problem.message

/-- Whether the failure lies with the server or on the way to it. -/
def isRemote : ClientError → Bool
  | .remote .. | .transport _ | .decode _ => true
  | .invalidInput _ | .expression _ => false

/-- The text of the error behind this one, if there is one. -/
def source? : ClientError → Option String
  | .expression problem => some problem.message
  | _ => none

end ClientError

end PagedQuery
