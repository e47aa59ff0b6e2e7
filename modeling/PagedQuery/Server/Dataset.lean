import PagedQuery.Server.Basic

/-!
# PagedQuery.Server.Dataset

A server that holds a fixed collection.  It answers every request from the collection, as far
as its limits allow, and gives back the payload of every change.
-/

namespace PagedQuery

/-- The parameter with this name. -/
def Fetch.param? (f : Fetch) (name : String) : Option String :=
  (f.params.find? fun p => p.1 == name).map Prod.snd

/-- The parameter with this name, as a number; zero if it is missing or no number. -/
def Fetch.number (f : Fetch) (name : String) : Nat :=
  (((f.param? name).bind fun s => Text.uint64? s.toList).map UInt64.toNat).getD 0

/-- A fixed collection and the manners of the server that holds it. -/
structure Dataset where
  records : List Json
  /-- The largest page sent, whatever is asked for. -/
  maxPage : Option Nat
  /-- Whether pages carry a range header. -/
  sendsRange : Bool
  /-- The number of records claimed in range headers. -/
  claimedCount : Option Nat
  /-- The offset at which requests fail. -/
  failsAt : Option Nat
  /-- The answer to every change, if changes fail. -/
  mutationError : Option ClientError

namespace Dataset

/-- At most `limit` records from `offset` on. -/
def page (d : Dataset) (limit offset : Nat) : List Json :=
  let limit := match d.maxPage with
    | some most => min limit most
    | none => limit
  (d.records.drop offset).take limit

/-- The range header of a page.  The last record of an empty page comes before its first. -/
def rangeText (d : Dataset) (offset length : Nat) : String :=
  let last : Int := offset + length - 1
  "items " ++ toString offset ++ "-" ++ toString last ++ "/"
    ++ toString (d.claimedCount.getD d.records.length)

def answer (d : Dataset) (f : Fetch) : Except ClientError Page :=
  let offset := f.number "offset"
  if d.failsAt = some offset then .error (.remote 503 "unavailable")
  else
    let records := d.page (f.number "limit") offset
    .ok ⟨records, if d.sendsRange then some (d.rangeText offset records.length) else none⟩

end Dataset

/-- The reply of a server that keeps no changes: the payload, unless something is deleted. -/
def Mutation.echo (m : Mutation) : Reply :=
  match m.verb, m.payload with
  | .delete, _ | _, none => .empty
  | _, some payload => .json payload

/-- The answer to a change of a server on which changes may fail. -/
def Mutation.echoUnless (m : Mutation) (failure : Option ClientError) : Except ClientError Reply :=
  match failure with
  | some e => .error e
  | none => .ok m.echo

/-- The server of a dataset; it has no state. -/
def Dataset.server (d : Dataset) : Server Unit where
  fetch f _ := (d.answer f, ())
  mutate m _ := (m.echoUnless d.mutationError, ())

end PagedQuery
