import ClusterRest.Base64
import ClusterRest.Http.Headers
import ClusterRest.Url.Basic

/-! What goes over the wire: messages, their addresses, and what becomes of them. -/

namespace ClusterRest.Transport

open Url (percentDecode)

/-- A request as it is sent. -/
structure Message where
  method : String
  url : Url
  headers : Http.Headers
  body : Option Bytes
  deriving DecidableEq, Repr

/-- What becomes of a message: an answer, no connection, a connection that breaks, silence until
the time is up, or silence until the caller's token fires. -/
inductive Delivery where
  | answered (status : Nat) (headers : Http.Headers) (body : Bytes)
  | unreachable
  | broken
  | silent
  | abandoned
  deriving DecidableEq, Repr

/-- A network takes a message and changes its own state. -/
abbrev Network (World : Type) := World → Message → Delivery × World

def userAgentName : String := "user-agent"
def userAgent : String := "onefs-api/0.1.0"

/-- What every message carries unless the caller set it. -/
def withDefaults (headers : Http.Headers) : Http.Headers :=
  if (headers.values userAgentName).isEmpty then
    headers.append userAgentName (Bytes.ofString userAgent)
  else headers

def basicValue (username password : String) : Bytes :=
  Bytes.ofString ("Basic " ++ Base64.encode (Bytes.ofString (username ++ ":" ++ password)))

def decodedText? (text : String) : Option String :=
  Bytes.toString? (percentDecode (Bytes.ofString text))

/-- The user and password that an address names, if they are text. -/
def userinfo? (url : Url) : Option (String × String) := do
  let username ← decodedText? url.username
  let password := url.password.bind decodedText?
  if username.isEmpty && password.isNone then none
  else some (username, password.getD "")

def withoutUserinfo (url : Url) : Url :=
  if (userinfo? url).isSome then { url with username := "", password := none } else url

def hasHost (url : Url) : Bool :=
  match url.host with
  | some host => !host.isEmpty
  | none => false

def isWebScheme (scheme : String) : Bool := scheme = "http" || scheme = "https"

def greatestUrlLength : Nat := 65534

/-- Characters of a host name that no request line may hold. -/
def isUnsendable (character : Char) : Bool := "\"\x60\x7b\x7d".toList.contains character

/-- Whether an address can be sent to at all. -/
def isSendable (url : Url) : Bool :=
  isWebScheme url.scheme && url.toText.utf8ByteSize ≤ greatestUrlLength &&
    match url.host with
    | some host => !host.toText.toList.any isUnsendable
    | none => false

end ClusterRest.Transport
