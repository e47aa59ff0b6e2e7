import PagedQuery.ClientError
import PagedQuery.Text.Blank
import PagedQuery.Text.Integer
import PagedQuery.Text.Pieces

/-!
# PagedQuery.ContentRange

The range a server reports with a page, `items <first>-<last>/<count>`.  The last position is
signed, since a page without records at the start of a collection ends at -1.
-/

namespace PagedQuery

/-- Positions of the first and the last record of a page, and the number of all records. -/
structure ContentRange where
  first : Int64
  last : Int64
  count : UInt64
deriving DecidableEq, Repr

namespace ContentRange

/-- Whether the page reaches the end of the collection.  The count is taken as a signed word,
so that one of `2 ^ 63` or more counts as negative. -/
def isLastPage (r : ContentRange) : Bool :=
  decide (r.count.toInt64 ≤ r.last + 1)

/-- The header text of a range. -/
def text (r : ContentRange) : String :=
  "items " ++ toString r.first.toInt ++ "-" ++ toString r.last.toInt ++ "/"
    ++ toString r.count.toNat

/-- What follows `items ` in a header, blanks around the header left out. -/
def dropUnit? (cs : List Char) : Option (List Char) :=
  match cs with
  | 'i' :: 't' :: 'e' :: 'm' :: 's' :: ' ' :: rest => some rest
  | _ => none

/-- The range of a header text.  The count follows the first slash, and the last position the
first dash before it; blanks may surround the three numbers. -/
def ofText? (header : String) : Option ContentRange := do
  let rest ← dropUnit? (Text.stripWhere Text.isBlank header.toList)
  let (span, count) ← Text.cut '/' rest
  let (first, last) ← Text.cut '-' span
  let first ← Text.int64? (Text.stripWhere Text.isBlank first)
  let last ← Text.int64? (Text.stripWhere Text.isBlank last)
  let count ← Text.uint64? (Text.stripWhere Text.isBlank count)
  some ⟨first, last, count⟩

/-- The range of a header text, which is an error if it has another form. -/
def read (header : String) : Except ClientError ContentRange :=
  match ofText? header with
  | some range => .ok range
  | none => .error (.decode (.range header))

end ContentRange

end PagedQuery
