import PagedQuery.Http.Message
import PagedQuery.Json.Reader
import PagedQuery.Server.Basic
import PagedQuery.Text.Utf8
import PagedQuery.Url.Basic

/-!
# PagedQuery.Http.Link

A server reached over HTTP: how requests for pages and changes become HTTP requests, and what
becomes of the responses.
-/

namespace PagedQuery.Http

/-- The way to a server: the address all paths are relative to, without slashes at its end, and
the headers of every request. -/
structure Link where
  endpoint : String
  headers : List (String × String)
deriving DecidableEq, Repr

namespace Link

/-- The link that settings describe, if their headers can be sent. -/
def ofSettings (s : Settings) : Except ClientError Link :=
  match checkHeaders s.headers with
  | .ok headers =>
    .ok ⟨String.ofList (Text.dropEndWhile (· == '/') s.endpoint.toList), headers⟩
  | .error problem => .error (.invalidInput problem)

/-! ## Requests -/

/-- The address of a path, as it is written. -/
def url (link : Link) (path : String) : String :=
  link.endpoint ++ "/" ++ String.ofList (path.toList.dropWhile (· == '/'))

/-- The request for an address as it is written, with more parameters. -/
def request (link : Link) (method url : String) (params : Option (List (String × String)))
    (payload : Option Json) : Except NoResponse (Url × Request) :=
  match Url.ofText? url with
  | none => .error (.unusable none)
  | some address =>
    if !address.hasHost then .error (.unusable (some address.text))
    else
      let address := match params with
        | some params => address.dropUser.addParams params
        | none => address.dropUser
      if address.isHttp then
        let headers := match payload with
          | some _ => setHeader "content-type" "application/json" link.headers
          | none => link.headers
        .ok (address, ⟨method, String.ofList address.target, headers, payload.map Json.render⟩)
      else .error (.unusable (some address.text))

/-- Sends a request.  A response with a status from 400 to 599 is an error, with its body as
text. -/
def send {π : Type} (peer : Peer π) (r : Except NoResponse (Url × Request)) (state : π) :
    Except ClientError Response × π :=
  match r with
  | .error problem => (.error (.transport problem), state)
  | .ok (address, request) =>
    match peer.exchange request state with
    | (none, state) => (.error (.transport (.unanswered address.text)), state)
    | (some response, state) =>
      if 400 ≤ response.status ∧ response.status < 600 then
        (.error (.remote response.status
          (String.ofList (Text.decodeLossy response.content))), state)
      else (.ok response, state)

/-! ## Responses -/

/-- The JSON document in a body. -/
def document? (body : List UInt8) : Option Json :=
  (String.fromUTF8? ⟨body.toArray⟩).bind Json.ofText?

/-- The page in a response to a request for the address `url`.  The range header is read before
the body. -/
def pageOf (url : String) (response : Response) : Except ClientError Page :=
  let range := response.header? "content-range"
  if range.any fun header => !isReadable header then .error (.decode .rangeText)
  else
    match document? response.content with
    | some (.array records) => .ok ⟨records, range⟩
    | some found => .error (.decode (.notArray url found))
    | none => .error (.decode .body)

/-- Whether a response says that its body is JSON. -/
def saysJson (response : Response) : Bool :=
  (response.header? "content-type").any fun value =>
    isReadable value && value.contains "json"

/-- The reply in a response to a change. -/
def replyOf (response : Response) : Except ClientError Reply :=
  let body := response.content
  if body.isEmpty then .ok .empty
  else if saysJson response then
    match document? body with
    | some value => .ok (.json value)
    | none => .error (.decode .body)
  else .ok (.bytes body)

/-- The server at the other end of the link. -/
def server {π : Type} (link : Link) (peer : Peer π) : Server π where
  fetch f state :=
    let url := link.url f.url
    match send peer (link.request "GET" url (some f.params) none) state with
    | (.ok response, state) => (pageOf url response, state)
    | (.error e, state) => (.error e, state)
  mutate m state :=
    match send peer (link.request m.verb.name (link.url m.path) none m.payload) state with
    | (.ok response, state) => (replyOf response, state)
    | (.error e, state) => (.error e, state)

/-- The link on one line; its connections are not shown. -/
def inspect (link : Link) : String :=
  "HttpTransport \x7b endpoint: " ++ Text.quoted link.endpoint
    ++ ", client: \"<reqwest::Client>\" \x7d"

end Link

end PagedQuery.Http
