import PagedQuery.Url.Authority
import PagedQuery.Url.Path

/-!
# PagedQuery.Url.Basic

Addresses on the web: reading them with all the leniency of the URL standard, and their
normal form.
-/

namespace PagedQuery

/-- An address in normal form.  The path is held with its slashes, the query and the fragment
without the marks in front of them. -/
structure Url where
  scheme : String
  authority : Option Url.Authority
  path : List Char
  query : Option (List Char)
  fragment : Option (List Char)
deriving DecidableEq, Repr

namespace Url

/-! ## Schemes -/

/-- The schemes whose addresses have a host and a path of segments, with their usual ports. -/
def usualPort? (scheme : String) : Option Nat :=
  if scheme = "http" ∨ scheme = "ws" then some 80
  else if scheme = "https" ∨ scheme = "wss" then some 443
  else if scheme = "ftp" then some 21
  else none

def isSpecial (scheme : String) : Bool :=
  (usualPort? scheme).isSome || scheme == "file"

/-- The scheme in front of the first colon, in lower case, and what follows. -/
def readScheme? (cs : List Char) : Option (String × List Char) :=
  match cs with
  | c :: _ =>
    let isPart (c : Char) := c.isAlphanum || c == '+' || c == '-' || c == '.'
    match c.isAlpha, cs.dropWhile isPart with
    | true, ':' :: rest => some (String.ofList ((cs.takeWhile isPart).map Char.toLower), rest)
    | _, _ => none
  | [] => none

/-! ## Authority and path -/

/-- Authority and path behind two slashes.  Only in special schemes a path is never empty; `last`
tells whether the address ends with them. -/
def readNet? (special last : Bool) (usual : Option Nat) (cs : List Char) :
    Option (Authority × List Char) := do
  let inPath := isSlash special
  let back := cs.dropWhile (!inPath ·)
  let (authority, front) ←
    Authority.read? special (last && back.isEmpty) usual (cs.takeWhile (!inPath ·))
  let path := front ++ back
  some (authority, if special || !path.isEmpty then normalPath special path else [])

/-- Authority and path of a file's address.  A drive is not a host, nor is there one in front of
a drive, and this computer goes without its name.  Behind an empty host the path has an empty
segment more, so that a drive is not at its start. -/
def readFile? (cs : List Char) : Option (Authority × List Char) :=
  let without (before : List (List Char)) (path : List Char) :=
    (Authority.ofHost [], filePath (fileSegments before path))
  match cs with
  | a :: b :: body =>
    if isSlash true a && isSlash true b then
      let hostText := body.takeWhile (!isSlash true ·)
      let path := body.dropWhile (!isSlash true ·)
      if isDrive hostText then some (without [] body)
      else if hostText.isEmpty then some (without [[]] path)
      else do
        let host ← host? hostText
        if String.ofList host = "localhost" then some (without [[]] path)
        else
          let segments := fileSegments [] path
          some (.ofHost (if segments.head?.any isDrive then [] else host), filePath segments)
    else some (without [] cs)
  | cs => some (without [] cs)

/-- Authority and path of an address, by its scheme; `last` tells whether the address ends with
them. -/
def readHierarchy? (scheme : String) (last : Bool) (cs : List Char) :
    Option (Option Authority × List Char) :=
  if scheme = "file" then (readFile? cs).map fun (authority, path) => (some authority, path)
  else
    match usualPort? scheme with
    | some port =>
      (readNet? true last (some port) (cs.dropWhile (isSlash true))).map fun (authority, path) =>
        (some authority, path)
    | none =>
      match cs with
      | '/' :: '/' :: rest =>
        (readNet? false last none rest).map fun (authority, path) => (some authority, path)
      | '/' :: rest => some (none, normalPath false ('/' :: rest))
      | cs => some (none, percentEncode isPrintableAscii cs)

/-! ## Reading -/

/-- Without controls and spaces at both ends, and without any tabs and line ends. -/
def clean (cs : List Char) : List Char :=
  let isEdge (c : Char) := decide (c.toNat ≤ 0x20)
  let cs := cs.dropWhile isEdge
  ((cs.reverse.dropWhile isEdge).reverse).filter fun c => c != '\t' && c != '\n' && c != '\r'

/-- What stands before the first `mark`, and what stands behind it if there is one. -/
def splitMark (mark : Char) (cs : List Char) : List Char × Option (List Char) :=
  match Text.cut mark cs with
  | some (front, back) => (front, some back)
  | none => (cs, none)

/-- The address a text stands for, if it does. -/
def ofText? (text : String) : Option Url := do
  let (front, fragment) := splitMark '#' (clean text.toList)
  let (front, query) := splitMark '?' front
  let (scheme, rest) ← readScheme? front
  let (authority, path) ← readHierarchy? scheme (query.isNone && fragment.isNone) rest
  some {
    scheme := scheme
    authority := authority
    path := path
    query := query.map (percentEncode (keepInQuery (isSpecial scheme)))
    fragment := fragment.map (percentEncode keepInFragment) }

/-! ## Parts and text -/

/-- Whether the address names a host. -/
def hasHost (u : Url) : Bool :=
  u.authority.any fun a => !a.host.isEmpty

/-- The address without the name and the password of a user, if those can be sent in a header
instead. -/
def dropUser (u : Url) : Url :=
  { u with authority := u.authority.map fun a =>
      if a.user.isHeader then { a with user := .empty } else a }

/-- The query with more parameters behind it; none if there is nothing in it. -/
def addParams (u : Url) (params : List (String × String)) : Url :=
  let parts := (u.query.toList.filter (!·.isEmpty)) ++ formPairs params
  { u with query := if parts.isEmpty then none else some (['&'].intercalate parts) }

/-- The authority with the marks around it.  Without one, a path that starts with two slashes
needs a dot in front to be told from an authority. -/
def authorityText (u : Url) : List Char :=
  match u.authority with
  | some a => a.text
  | none =>
    match u.path with
    | '/' :: '/' :: _ => ['/', '.']
    | _ => []

/-- The address as it is asked for: without its fragment. -/
def target (u : Url) : List Char :=
  u.scheme.toList ++ ':' :: u.authorityText ++ u.path
    ++ (match u.query with
      | some q => '?' :: q
      | none => [])

/-- The whole address. -/
def text (u : Url) : String :=
  String.ofList (u.target ++ (match u.fragment with
    | some f => '#' :: f
    | none => []))

/-- The longest address that can be asked for. -/
def maxLength : Nat := 65534

/-- Whether the address can be asked for over HTTP: its host has no quotes and braces, and it is
not too long. -/
def isHttp (u : Url) : Bool :=
  let isMark (c : Char) := c == '"' || c == '\x60' || c == '\x7b' || c == '\x7d'
  (u.scheme == "http" || u.scheme == "https") && u.authority.all (fun a => !a.host.any isMark)
    && decide (u.text.length ≤ maxLength)

end Url

end PagedQuery
