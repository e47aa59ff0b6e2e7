import PagedQuery.Record
import PagedQuery.View.Basic

/-!
# PagedQuery.View.Request

The requests a view makes, and the records it makes of the answers.
-/

namespace PagedQuery.View

/-! ## The query text -/

/-- The parts of the query text: `select(...)`, the filter and `ordering(...)`, as far as they
say anything. -/
def queryParts (v : View) : List String :=
  (if v.select.isEmpty then [] else [Term.callText "select" v.select])
    ++ (if v.filter.render = "" then [] else [v.filter.render])
    ++ (if v.order.isEmpty then [] else [Term.callText "ordering" v.order])

/-- The query text of the view. -/
def query (v : View) : String :=
  Text.join "&" v.queryParts

/-- The address to ask, with the query text behind it. -/
def url (v : View) : String :=
  if v.query = "" then v.path else v.path ++ "?" ++ v.query

/-- The parameters of a request for `limit` records from `offset` on. -/
def params (v : View) (limit offset : Nat) : List (String × String) :=
  [("limit", toString limit), ("offset", toString offset)]
    ++ (v.search.map fun term => ("search", term)).toList

/-! ## One page -/

/-- Asks for `limit` records from `offset` on.  A range header is remembered if it can be read,
and makes the answer an error if it cannot. -/
def fetchPage {σ : Type} (v : View) (server : Server σ) (url : String) (limit offset : Nat)
    (ch : Channel σ) : Except ClientError (List Json × Option ContentRange) × Channel σ :=
  match server.askPage ⟨url, v.params limit offset⟩ ch.session with
  | (.error e, s) => (.error e, { ch with session := s })
  | (.ok page, s) =>
    match page.contentRange with
    | none => (.ok (page.records, none), { ch with session := s })
    | some header =>
      match ContentRange.read header with
      | .ok range =>
        (.ok (page.records, some range), ⟨{ ch.memo with range := some range }, s⟩)
      | .error e => (.error e, { ch with session := s })

/-- A record as the view shows it. -/
def shape (v : View) (record : Json) : Json :=
  match v.projection with
  | some fields => .object (Record.project record fields)
  | none => record

end PagedQuery.View
