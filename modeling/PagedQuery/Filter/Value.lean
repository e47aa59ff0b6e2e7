import PagedQuery.Calendar
import PagedQuery.Decimal.Layout

/-!
# PagedQuery.Filter.Value

The values a field is compared with, and the text in which they are sent.
-/

namespace PagedQuery.Filter

/-- A value of a comparison.  Lists only serve the list operators, and nothing accepts null. -/
inductive Value where
  | text (s : String)
  | boolean (b : Bool)
  | integer (n : Int)
  /-- A double, by its bits. -/
  | float (bits : UInt64)
  | date (d : Calendar.Date)
  | dateTime (t : Calendar.DateTime)
  | zonedDateTime (t : Calendar.ZonedDateTime)
  | list (items : List String)
  | null
deriving DecidableEq, Repr

/-- The kinds of value that error messages tell apart. -/
inductive Kind where
  | text | boolean | integer | float | date | dateTime | list | null
deriving DecidableEq, Repr

def Kind.name : Kind → String
  | .text => "text" | .boolean => "boolean" | .integer => "integer" | .float => "float"
  | .date => "date" | .dateTime => "datetime" | .list => "list" | .null => "null"

namespace Value

def kind : Value → Kind
  | .text _ => .text
  | .boolean _ => .boolean
  | .integer _ => .integer
  | .float _ => .float
  | .date _ => .date
  | .dateTime _ | .zonedDateTime _ => .dateTime
  | .list _ => .list
  | .null => .null

/-- Floats are always written without an exponent, and whole ones below `10 ^ 16` keep a
fractional zero, so that `1.0` is not sent as `1`. -/
def floatLayout : Decimal.Layout where
  positional _ := true
  fractional point := decide (point ≤ 16)

/-- The text in which a scalar is sent; lists and null have none. -/
def wire? : Value → Option String
  | .text s => some s
  | .boolean b => some (if b then "true" else "false")
  | .integer n => some (toString n)
  | .float bits => some (floatLayout.text bits)
  | .date d => some d.text
  | .dateTime t => some t.text
  | .zonedDateTime t => some t.text
  | .list _ | .null => none

end Value

end PagedQuery.Filter
