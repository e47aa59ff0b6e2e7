import PagedQuery.Text.Pieces
import PagedQuery.Url.Host

/-!
# PagedQuery.Url.Authority

The part of an address that says who is asked: a host and a port, with the name and the
password of a user in front.
-/

namespace PagedQuery.Url

/-- A name and a password, percent-encoded. -/
structure UserInfo where
  name : List Char
  password : List Char
deriving DecidableEq, Repr

structure Authority where
  user : UserInfo
  host : List Char
  /-- The port, unless it is the usual one. -/
  port : Option Nat
deriving DecidableEq, Repr

/-! ## Users -/

namespace UserInfo

def empty : UserInfo := ⟨[], []⟩

/-- A name, and behind the first colon a password. -/
def ofText (cs : List Char) : UserInfo :=
  match Text.cut ':' cs with
  | some (name, password) => ⟨percentEncode keepInUser name, percentEncode keepInUser password⟩
  | none => ⟨percentEncode keepInUser cs, []⟩

/-- Whether the name and the password can be sent in a header: the name must be text, and where
there is none the password. -/
def isHeader (u : UserInfo) : Bool :=
  let isText (cs : List Char) := (String.fromUTF8? ⟨(percentDecode cs).toArray⟩).isSome
  isText u.name && (!u.name.isEmpty || isText u.password)

/-- The name and the password in front of a host. -/
def text (u : UserInfo) : List Char :=
  if u = empty then []
  else u.name ++ (if u.password.isEmpty then [] else ':' :: u.password) ++ ['@']

end UserInfo

/-! ## Ports -/

/-- The host text, and the port text behind a colon that is not in brackets. -/
def splitPort (inside : Bool) : List Char → List Char × Option (List Char)
  | [] => ([], none)
  | c :: cs =>
    if c = ':' && !inside then ([], some cs)
    else
      let (host, port) := splitPort (if c = '[' then true else if c = ']' then false else inside) cs
      (c :: host, port)

/-- A port: none if nothing is written or it is the usual one. -/
def readPort? (usual : Option Nat) (cs : List Char) : Option (Option Nat) :=
  if cs.isEmpty then some none
  else if !cs.all Char.isDigit then none
  else
    let n := Nat.ofDigitChars 10 cs 0
    if 65535 < n then none else some (if some n = usual then none else some n)

/-! ## Authorities -/

namespace Authority

/-- An authority of nothing but a host. -/
def ofHost (host : List Char) : Authority := ⟨.empty, host, none⟩

/-- What stands in front of the last `@`, and what stands behind it. -/
def cutUser (cs : List Char) : List Char × List Char :=
  let back := (cs.reverse.takeWhile (· != '@')).reverse
  (cs.take (cs.length - back.length - 1), back)

/-- Whether an authority may be without a host: it is empty, or it is an empty name with an empty
password, or it is an empty name alone and nothing follows it in the address. -/
def mayLackHost (last : Bool) (cs : List Char) : Bool :=
  cs.isEmpty || cs == [':', '@'] || (last && cs == ['@'])

/-- An authority and, where a backslash ends its port, what follows.  Only schemes that are not
special allow for an empty host; `last` tells whether the address ends with the authority. -/
def read? (special last : Bool) (usual : Option Nat) (cs : List Char) :
    Option (Authority × List Char) := do
  let (userText, rest) := cutUser cs
  let (hostText, portText) := splitPort false rest
  let portText := portText.getD []
  let inPort (c : Char) := c != '\\'
  let port ← readPort? usual (portText.takeWhile inPort)
  let host ←
    if special then host? hostText
    else if hostText.isEmpty && !mayLackHost last cs then none
    else opaqueHost? hostText
  some (⟨.ofText userText, host, port⟩, portText.dropWhile inPort)

/-- The authority behind its two slashes. -/
def text (a : Authority) : List Char :=
  '/' :: '/' :: a.user.text ++ a.host ++ (match a.port with
    | some n => ':' :: Nat.toDigits 10 n
    | none => [])

end Authority

end PagedQuery.Url
