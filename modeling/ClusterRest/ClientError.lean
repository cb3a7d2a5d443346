import ClusterRest.ApiVersion
import ClusterRest.Duration.Basic
import ClusterRest.Http.Status
import ClusterRest.Json.Fault
import ClusterRest.Url.Host

/-! What can go wrong between a client and a cluster. -/

namespace ClusterRest

/-- One entry of an error document. -/
structure ErrorEntry where
  code : String
  field : String
  message : String
  deriving DecidableEq, Repr, Inhabited

/-- A reply of the cluster that reports a failure: a list of entries, or a page with a headline. -/
inductive ErrorReply where
  | entries (status : Nat) (statusLine : String) (entries : List ErrorEntry)
  | page (status : Nat) (headline : String)
  deriving DecidableEq, Repr

namespace ErrorReply

def status : ErrorReply → Nat
  | .entries status _ _ => status
  | .page status _ => status

/-- The message of the first entry, or the status line where there is none. -/
def message : ErrorReply → String
  | .entries _ statusLine listed =>
    match listed.head? with
    | some entry => if entry.message.isEmpty then statusLine else entry.message
    | none => statusLine
  | .page _ headline => headline

end ErrorReply

/-- Fields that a client cannot do without. -/
inductive RequiredField where
  | endpoint
  | username
  | password
  deriving DecidableEq, Repr

def RequiredField.name : RequiredField → String
  | .endpoint => "endpoint"
  | .username => "username"
  | .password => "password"

/-- How a round trip failed: no connection, no reply, or no request in the first place. -/
inductive TransportFailure where
  | connecting (url : String)
  | sending (url : String)
  | building (url : String)
  deriving DecidableEq, Repr

def TransportFailure.message : TransportFailure → String
  | .connecting url => "error sending request for url (" ++ url ++ ")"
  | .sending url => "error sending request for url (" ++ url ++ ")"
  | .building url => "builder error for url (" ++ url ++ ")"

inductive ClientError where
  | missingConfig (field : RequiredField)
  | tls (reason : String)
  | ioStart (reason : String)
  | invalidVersion (text : String)
  | unsupportedVersion (version : ApiVersion) (least : Nat)
  | authenticationFailed
  | sessionTokenMissing
  | loginRefused (status : Nat) (body : String)
  | reauthenticationFailed (cause : ClientError)
  | transport (failure : TransportFailure)
  | timeout (limit : Duration)
  | cancelled
  | invalidUrl (text : String) (cause : UrlError)
  | invalidHeader (reason : String)
  | serialization (reason : String)
  | deserialization (reason : String) (body : String)
  | reply (error : ErrorReply)
  deriving DecidableEq, Repr, Inhabited

namespace ClientError

def message : ClientError → String
  | .missingConfig field => "missing required configuration: " ++ field.name
  | .tls reason => "TLS error: " ++ reason
  | .ioStart reason => "failed to start I/O runtime: " ++ reason
  | .invalidVersion text => "invalid API version string: " ++ Text.quote text
  | .unsupportedVersion version least =>
    "OneFS API version " ++ version.toText ++ " is no longer supported (minimum major version " ++
      toString least ++ ")"
  | .authenticationFailed => "authentication failed: invalid username or password"
  | .sessionTokenMissing => "authentication failed: session token missing from login response"
  | .loginRefused status body => "authenticate error (HTTP " ++ toString status ++ "): " ++ body
  | .reauthenticationFailed cause => "re-authentication failed: " ++ cause.message
  | .transport failure => "HTTP transport error: " ++ failure.message
  | .timeout limit => "request timed out after " ++ limit.toText
  | .cancelled => "request cancelled"
  | .invalidUrl text cause => "invalid URL " ++ Text.quote text ++ ": " ++ cause.message
  | .invalidHeader reason => "invalid header: " ++ reason
  | .serialization reason => "failed to serialize request body: " ++ reason
  | .deserialization reason _ => "deserialization error: " ++ reason
  | .reply error => error.message

/-- The status that a reply of the cluster reports. -/
def status? : ClientError → Option Nat
  | .reply error => some error.status
  | _ => none

/-- The one condition under which a session is renewed. -/
def isUnauthorized (error : ClientError) : Bool := error.status? == some Http.unauthorized

def isNotFound (error : ClientError) : Bool := error.status? == some Http.notFound

def isLoginFailure : ClientError → Bool
  | .authenticationFailed | .sessionTokenMissing | .loginRefused _ _ | .reauthenticationFailed _ =>
    true
  | _ => false

def isConnectFailure : ClientError → Bool
  | .transport (.connecting _) => true
  | _ => false

def isTimeout : ClientError → Bool
  | .timeout _ => true
  | _ => false

/-- How many characters of a body a message shows. -/
def previewLength : Nat := 200

def preview (text : String) : String := .ofList (text.toList.take previewLength)

/-- A body that is not the JSON that is asked for. -/
def ofFault (fault : Json.LocatedFault) (body : Bytes) : ClientError :=
  let text := Bytes.toStringLossy body
  .deserialization
    (fault.message ++ " (body preview: " ++ Text.quote (preview text) ++ ")") text

end ClientError

end ClusterRest
