/-!
# PagedQuery.Toml.Basic

TOML values.  Tables know how they came about, since that decides how they may be extended.
-/

namespace PagedQuery

/-- How a table came about. -/
inductive Toml.Origin where
  /-- Written in braces. -/
  | inline
  /-- By a dotted key. -/
  | dotted
  /-- By its own header. -/
  | header
  /-- By the header of a table inside it. -/
  | implied
deriving DecidableEq, Repr

/-- A TOML value.  Of floats only the text is kept, of dates and times their normal form. -/
inductive Toml where
  | text (s : String)
  | integer (n : Int64)
  | float (source : List Char)
  | boolean (b : Bool)
  | dateTime (text : String)
  | array (items : List Toml)
  | table (origin : Toml.Origin) (entries : List (String × Toml))
  /-- An array whose tables have headers, the last one first. -/
  | tables (last : List (String × Toml)) (before : List Toml)
deriving Repr, Inhabited

namespace Toml

/-- The rows of a table, with distinct keys. -/
abbrev Entries := List (String × Toml)

namespace Entries

def get? : Entries → String → Option Toml
  | [], _ => none
  | (k, v) :: rest, key => if k = key then some v else get? rest key

/-- Gives `key` a value, in its old place if it is there already. -/
def set : Entries → String → Toml → Entries
  | [], key, value => [(key, value)]
  | (k, v) :: rest, key, value =>
    if k = key then (key, value) :: rest else (k, v) :: set rest key value

end Entries

/-! ## Putting tables together -/

/-- Whether dotted keys may pass through a table of this origin on the way to another one. -/
def Origin.isOpen : Origin → Bool
  | .dotted | .implied => true
  | .inline | .header => false

/-- Adds `key = value` to the table that a dotted path leads to, creating tables on the way.
No key is given twice, and of a table that exists the path may only add to one made by dotted
keys; `start` tells that no key has been passed, `dotted` how the table reached came about. -/
def assign (key : String) (value : Toml) (start dotted : Bool) :
    List String → Entries → Option Entries
  | [], entries =>
    if start = dotted || (Entries.get? entries key).isSome then none
    else some (entries ++ [(key, value)])
  | k :: path, entries =>
    match Entries.get? entries k with
    | none =>
      (assign key value false true path []).map fun made =>
        entries ++ [(k, .table .dotted made)]
    | some (.table origin inner) =>
      if origin.isOpen then
        (assign key value false (origin = .dotted) path inner).map fun inner =>
          Entries.set entries k (.table origin inner)
      else none
    | some (.tables last before) =>
      (assign key value false false path last).map fun last =>
        Entries.set entries k (.tables last before)
    | some _ => none

/-- Changes the table that a header path leads to, creating tables on the way.  Where the path
meets an array of tables it goes on in the last of them. -/
def within (change : Entries → Option Entries) : List String → Entries → Option Entries
  | [], entries => change entries
  | k :: path, entries =>
    match Entries.get? entries k with
    | none => (within change path []).map fun made => entries ++ [(k, .table .implied made)]
    | some (.table origin inner) =>
      if origin = .inline then none
      else
        (within change path inner).map fun inner => Entries.set entries k (.table origin inner)
    | some (.tables last before) =>
      (within change path last).map fun last => Entries.set entries k (.tables last before)
    | some _ => none

/-- Opens a table by its header: it must be new, or only known from the headers of tables
inside it. -/
def openTable (key : String) (entries : Entries) : Option Entries :=
  match Entries.get? entries key with
  | none => some (entries ++ [(key, .table .header [])])
  | some (.table .implied inner) => some (Entries.set entries key (.table .header inner))
  | some _ => none

/-- Opens one more table of an array of tables. -/
def openItem (key : String) (entries : Entries) : Option Entries :=
  match Entries.get? entries key with
  | none => some (entries ++ [(key, .tables [] [])])
  | some (.tables last before) =>
    some (Entries.set entries key (.tables [] (.table .header last :: before)))
  | some _ => none

end Toml

end PagedQuery
