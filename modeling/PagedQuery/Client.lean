import PagedQuery.Http.Link
import PagedQuery.View.Build

/-!
# PagedQuery.Client

Fluent paths: from a client through namespaces and collections to resources and actions.  Each
step appends one name to the path; a collection gives views of its records, and collections,
resources and actions give requests for changes.
-/

namespace PagedQuery

/-- A path with one more name, slashes around which are left out.  An empty path gets no slash
behind it. -/
def joinPath (base segment : String) : String :=
  let segment := String.ofList (Text.stripWhere (· == '/') segment.toList)
  if base = "" then segment else base ++ "/" ++ segment

structure Client where
  settings : Settings
deriving DecidableEq, Repr

/-- A part of the paths of a server. -/
structure Namespace where
  path : String
  pageSize : Nat
deriving DecidableEq, Repr

/-- Records of one kind. -/
structure Collection where
  path : String
  pageSize : Nat
deriving DecidableEq, Repr

/-- One record. -/
structure Resource where
  path : String
  pageSize : Nat
deriving DecidableEq, Repr

/-- Something a server can be told to do. -/
structure Action where
  path : String
deriving DecidableEq, Repr

namespace Client

/-- A client with these settings, if they are usable and their headers can be sent. -/
def ofSettings (s : Settings) : Except ClientError Client :=
  match s.problem? with
  | some problem => .error (.invalidInput (.settings problem))
  | none => (Http.Link.ofSettings s).map fun _ => ⟨s⟩

def namespaceAt (c : Client) (name : String) : Namespace :=
  ⟨joinPath "" name, c.settings.pageSize⟩

/-- The client on one line; of its settings only two are shown. -/
def inspect (c : Client) : String :=
  "Client \x7b endpoint: " ++ Text.quoted c.settings.endpoint ++ ", page_size: "
    ++ toString c.settings.pageSize ++ " \x7d"

end Client

namespace Namespace

def namespaceAt (n : Namespace) (name : String) : Namespace :=
  ⟨joinPath n.path name, n.pageSize⟩

def collection (n : Namespace) (name : String) : Collection :=
  ⟨joinPath n.path name, n.pageSize⟩

end Namespace

/-- A collection outside of any namespace. -/
def Client.collection (c : Client) (name : String) : Collection :=
  (c.namespaceAt "").collection name

namespace Collection

def resource (c : Collection) (id : String) : Resource :=
  ⟨joinPath c.path id, c.pageSize⟩

def action (c : Collection) (name : String) : Action :=
  ⟨joinPath c.path name⟩

/-- All records of the collection. -/
def view (c : Collection) : View :=
  (View.ofPath c.path).withPageSize c.pageSize

def filter (c : Collection) (expr : Filter.Expr) : View :=
  c.view.withFilter expr

def filterBy (c : Collection) (lookups : List (String × Filter.Value)) :
    Except ClientError View :=
  c.view.withLookups lookups

/-- The request for a new record. -/
def create (c : Collection) (payload : Json) : Mutation :=
  ⟨.post, c.path, some payload⟩

end Collection

namespace Resource

def action (r : Resource) (name : String) : Action :=
  ⟨joinPath r.path name⟩

/-- A collection that belongs to the resource. -/
def collection (r : Resource) (name : String) : Collection :=
  ⟨joinPath r.path name, r.pageSize⟩

/-- The request to change some members. -/
def update (r : Resource) (payload : Json) : Mutation :=
  ⟨.patch, r.path, some payload⟩

/-- The request to put another record in the place of this one. -/
def replace (r : Resource) (payload : Json) : Mutation :=
  ⟨.put, r.path, some payload⟩

def delete (r : Resource) : Mutation :=
  ⟨.delete, r.path, none⟩

end Resource

/-- The request to carry out an action. -/
def Action.call (a : Action) (payload : Option Json) : Mutation :=
  ⟨.post, a.path, payload⟩

end PagedQuery
