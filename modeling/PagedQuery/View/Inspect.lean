import PagedQuery.View.Request

/-!
# PagedQuery.View.Inspect

Diagnostic texts: a view with what is remembered of it, on one line, and warnings.
-/

namespace PagedQuery

/-- An optional part of a diagnostic text. -/
def inspectOption (text : Option String) : String :=
  match text with
  | some t => "Some(" ++ t ++ ")"
  | none => "None"

/-- A named record of a diagnostic text. -/
def inspectFields (name : String) (fields : List (String × String)) : String :=
  name ++ " \x7b " ++ Text.join ", " (fields.map fun (k, t) => k ++ ": " ++ t) ++ " \x7d"

def ContentRange.inspect (r : ContentRange) : String :=
  inspectFields "ContentRange"
    [("first", toString r.first.toInt), ("last", toString r.last.toInt),
      ("count", toString r.count.toNat)]

def Window.inspect (w : Window) : String :=
  toString w.start ++ ".." ++ toString w.stop

/-- The view and its memory; of the records only the number is shown. -/
def View.inspect (v : View) (memo : Memo) : String :=
  inspectFields "ResultView"
    [("path", Text.quoted v.path),
      ("query", Text.quoted v.query),
      ("search", inspectOption (v.search.map Text.quoted)),
      ("page_size", toString v.pageSize),
      ("offset", toString v.offset),
      ("window", inspectOption (v.window.map Window.inspect)),
      ("projection", inspectOption (v.projection.map Text.quotedList)),
      ("cached", inspectOption (memo.records.map fun records => toString records.length)),
      ("range", inspectOption (memo.range.map ContentRange.inspect))]

def EmptyPage.message (p : EmptyPage) : String :=
  "Empty page at offset " ++ toString p.offset ++ " of " ++ p.url ++ " (range "
    ++ inspectOption (p.range.map ContentRange.inspect) ++ "), stopping"

end PagedQuery
