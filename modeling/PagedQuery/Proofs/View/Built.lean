import PagedQuery.Client
import PagedQuery.Proofs.View.Extent

/-!
# PagedQuery.Proofs.View.Built

The views that can be built.  They begin with all records of a collection and are made of each
other by filters, fields, searches, projections, page sizes, offsets and slices.
-/

namespace PagedQuery.View

/-- One step of building a view from another. -/
inductive Builds (v : View) : View → Prop
  | withFilter (expr : Filter.Expr) : Builds v (v.withFilter expr)
  | withRawFilter {text : String} {v' : View} (h : v.withRawFilter text = .ok v') : Builds v v'
  | withLookups {lookups : List (String × Filter.Value)} {v' : View}
      (h : v.withLookups lookups = .ok v') : Builds v v'
  | selecting {fields : List String} {v' : View} (h : v.selecting fields = .ok v') : Builds v v'
  | orderedBy {fields : List String} {v' : View} (h : v.orderedBy fields = .ok v') : Builds v v'
  | projected {fields : List String} {v' : View} (h : v.projected fields = .ok v') : Builds v v'
  | searching (term : String) : Builds v (v.searching term)
  | limit {n : Nat} {v' : View} (h : v.limit n = .ok v') : Builds v v'
  | configure {pageSize offset : Option Nat} {v' : View}
      (h : v.configure pageSize offset = .ok v') : Builds v v'
  | slice {first last : Bound} {v' : View} (h : v.slice first last = .ok v') : Builds v v'

/-- The views that come of a path or of a collection by any number of steps. -/
inductive Built : View → Prop
  | ofPath (path : String) : Built (ofPath path)
  | ofCollection (c : Collection) : Built c.view
  | step {v v' : View} (h : Built v) (hstep : Builds v v') : Built v'

end PagedQuery.View
