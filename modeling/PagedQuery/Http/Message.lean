import PagedQuery.Settings

/-!
# PagedQuery.Http.Message

HTTP requests and responses, as far as a client of records sees them, and the rules for their
headers.
-/

namespace PagedQuery.Http

/-- A request; header names are in lower case. -/
structure Request where
  method : String
  /-- The whole address, without a fragment. -/
  target : String
  headers : List (String × String)
  body : Option String
deriving DecidableEq, Repr

/-- A response that has arrived in full. -/
structure Response where
  status : Nat
  headers : List (String × String)
  body : List UInt8
deriving DecidableEq, Repr

/-- The other end of a connection: it answers a request, or closes the connection instead. -/
structure Peer (π : Type) where
  exchange : Request → π → Option Response × π

/-- The peer that cannot be reached. -/
def Peer.unreachable : Peer Unit where
  exchange _ state := (none, state)

/-! ## Header names and values -/

/-- The characters of header names. -/
def isTokenChar (c : Char) : Bool :=
  c.isAlphanum || c == '!' || c == '#' || c == '$' || c == '%' || c == '&' || c == '\x27'
    || c == '*' || c == '+' || c == '-' || c == '.' || c == '^' || c == '_' || c == '\x60'
    || c == '|' || c == '~'

def isHeaderName (name : String) : Bool :=
  name != "" && name.toList.all isTokenChar && decide (name.length < UInt16.size)

/-- Whether a character may stand in a header that is sent: no control other than the tab. -/
def isValueChar (c : Char) : Bool :=
  c == '\t' || (0x20 ≤ c.toNat && c.toNat != 0x7F)

def isHeaderValue (value : String) : Bool :=
  value.toList.all isValueChar

/-- Whether a header that was received can be read as text: visible ASCII, spaces and tabs. -/
def isReadable (value : String) : Bool :=
  value.toList.all fun c => c == '\t' || (0x20 ≤ c.toNat && c.toNat < 0x7F)

def lowerCase (name : String) : String :=
  String.ofList (name.toList.map Char.toLower)

/-- A header value without the blanks that surround it on the line. -/
def trimValue (value : String) : String :=
  String.ofList (Text.stripWhere (fun c => c == ' ' || c == '\t') value.toList)

/-- The first header with this name; names are compared without regard to case. -/
def Response.header? (r : Response) (name : String) : Option String :=
  (r.headers.find? fun h => lowerCase h.1 == name).map fun h => trimValue h.2

/-- The body; two statuses have none. -/
def Response.content (r : Response) : List UInt8 :=
  if r.status = 204 ∨ r.status = 304 then [] else r.body

/-- Sets a header, in the place of one of this name if there is one. -/
def setHeader (name value : String) : List (String × String) → List (String × String)
  | [] => [(name, value)]
  | (k, v) :: rest =>
    if k = name then (name, value) :: rest else (k, v) :: setHeader name value rest

/-- The headers to send with every request, names in lower case; of names equal up to case the
last one counts.  The first that cannot be sent is the error. -/
def checkHeaders (headers : List (String × String)) :
    Except BadInput (List (String × String)) :=
  headers.foldlM (fun acc (name, value) =>
    if !isHeaderName name then .error (.headerName name)
    else if !isHeaderValue value then .error (.headerValue (lowerCase name))
    else .ok (setHeader (lowerCase name) (trimValue value) acc)) []

end PagedQuery.Http
