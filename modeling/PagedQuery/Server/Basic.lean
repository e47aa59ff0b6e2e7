import PagedQuery.ClientError
import PagedQuery.ContentRange

/-!
# PagedQuery.Server.Basic

What a view needs of a server: pages of records, and changes.  A server is a function of a
state of its own, so every way to answer, also one that changes over time, is covered.  A
session pairs that state with the record of what was asked.
-/

namespace PagedQuery

/-- A request for a page: an address relative to the server, and parameters. -/
structure Fetch where
  url : String
  params : List (String × String)
deriving DecidableEq, Repr

/-- A page of records, with the text of its range header if it has one. -/
structure Page where
  records : List Json
  contentRange : Option String
deriving DecidableEq

/-- The ways to change what a server holds. -/
inductive Verb where
  | post | put | patch | delete
deriving DecidableEq, Repr

def Verb.name : Verb → String
  | .post => "POST"
  | .put => "PUT"
  | .patch => "PATCH"
  | .delete => "DELETE"

/-- A request for a change. -/
structure Mutation where
  verb : Verb
  path : String
  payload : Option Json
deriving DecidableEq

/-- The answer to a change. -/
inductive Reply where
  | json (value : Json)
  | bytes (content : List UInt8)
  | empty
deriving DecidableEq

structure Server (σ : Type) where
  fetch : Fetch → σ → Except ClientError Page × σ
  mutate : Mutation → σ → Except ClientError Reply × σ

/-! ## Sessions -/

/-- A page without records where earlier metadata promised some. -/
structure EmptyPage where
  offset : Nat
  url : String
  range : Option ContentRange
deriving DecidableEq, Repr

/-- A server's state, the requests made so far and the warnings given so far, all in order. -/
structure Session (σ : Type) where
  state : σ
  fetches : List Fetch
  mutations : List Mutation
  warnings : List EmptyPage

namespace Session

variable {σ : Type}

/-- A session in which nothing has been asked yet. -/
def start (state : σ) : Session σ := ⟨state, [], [], []⟩

def warn (s : Session σ) (w : EmptyPage) : Session σ :=
  { s with warnings := s.warnings ++ [w] }

end Session

namespace Server

variable {σ : Type}

/-- Asks for a page. -/
def askPage (server : Server σ) (f : Fetch) (s : Session σ) : Except ClientError Page × Session σ :=
  let (answer, state) := server.fetch f s.state
  (answer, { s with state := state, fetches := s.fetches ++ [f] })

/-- Asks for a change. -/
def askChange (server : Server σ) (m : Mutation) (s : Session σ) :
    Except ClientError Reply × Session σ :=
  let (answer, state) := server.mutate m s.state
  (answer, { s with state := state, mutations := s.mutations ++ [m] })

end Server

end PagedQuery
