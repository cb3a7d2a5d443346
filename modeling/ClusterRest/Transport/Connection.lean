import ClusterRest.Coordinator
import ClusterRest.Dump
import ClusterRest.Endpoint
import ClusterRest.ErrorDocument
import ClusterRest.Http.Status
import ClusterRest.Transport.Network

/-! One endpoint: how its requests are put together, sent and dumped. -/

namespace ClusterRest.Transport

/-- What proves who is asking: a user's password with every request, or a session. -/
inductive Credentials where
  | basic (username password : String)
  | session
  deriving DecidableEq, Repr

structure Connection where
  endpoint : String
  credentials : Credentials
  verbosity : Verbosity
  timeout : Duration
  deriving DecidableEq, Repr

/-- A network with what was said about the traffic on it. -/
structure Traffic (World : Type) where
  world : World
  dumps : List String
  warnings : List Warning

def Traffic.start {World : Type} (world : World) : Traffic World := ⟨world, [], []⟩

/-- What became of a request, and whether the caller's token fired. -/
structure Sent (World : Type) where
  outcome : Except ClientError Reply
  fires : Bool
  traffic : Traffic World

def authorizationName : String := "authorization"
def contentTypeName : String := "content-type"
def cookieName : String := "cookie"
def refererName : String := "referer"
def csrfName : String := "x-csrf-token"
def setCookieName : String := "set-cookie"

def headerValue (text : String) : Except ClientError Bytes :=
  let value := Bytes.ofString text
  if Http.isHeaderValue value then .ok value else .error (.invalidHeader Http.badValue)

/-- The caller's headers over the content type that the body implies. -/
def requestHeaders (request : Request) : Http.Headers :=
  let implied : Http.Headers := match request.body.contentType? with
    | some contentType => Http.Headers.empty.insert contentTypeName (Bytes.ofString contentType)
    | none => .empty
  implied.extend request.headers

/-- The headers of a session replace those of the same name. -/
def sessionHeaders (session : Session) (headers : Http.Headers) :
    Except ClientError Http.Headers := do
  if !session.isAuthenticated then return headers
  let cookie ← headerValue session.cookie
  let referer ← headerValue session.referer
  let csrfToken ← headerValue session.csrfToken
  return ((headers.insert cookieName cookie).insert refererName referer).insert csrfName csrfToken

def userinfoHeaders (url : Url) : Http.Headers :=
  match userinfo? url with
  | some (username, password) =>
    Http.Headers.empty.append authorizationName (basicValue username password)
  | none => .empty

namespace Connection

/-- All headers of a request: credentials of the address, then those of the connection, both of
which the caller may replace. -/
def headers (connection : Connection) (url : Url) (request : Request) (session : Session) :
    Except ClientError Http.Headers :=
  match connection.credentials with
  | .basic username password =>
    .ok (((userinfoHeaders url).append authorizationName (basicValue username password)).extend
      (requestHeaders request))
  | .session => do
    return (userinfoHeaders url).extend (← sessionHeaders session (requestHeaders request))

/-- The message that stands for a request. -/
def message (connection : Connection) (request : Request) (session : Session) :
    Except ClientError Message := do
  let url ← Endpoint.url connection.endpoint request.path request.id request.params
  let headers ← connection.headers url request session
  if !hasHost url then throw (.transport (.building url.toText))
  return ⟨request.method, withoutUserinfo url, headers, request.body.content?⟩

def requestDump (connection : Connection) (message : Message) : String :=
  "request:\n" ++ Dump.render (message.method ++ " " ++ message.url.toText) connection.verbosity
    message.headers message.body

def replyDump (connection : Connection) (reply : Reply) : String :=
  "response:\n" ++ Dump.render (Http.statusTitle reply.status) connection.verbosity reply.headers
    (some reply.body)

variable {World : Type}

/-- How a delivery ends, and whether the caller's token fired meanwhile. -/
def outcome (connection : Connection) (url : String) (cancellation : Cancellation) :
    Delivery → Except ClientError Reply × Bool
  | .answered status headers body => (.ok ⟨status, headers, body⟩, false)
  | .unreachable => (.error (.transport (.connecting url)), false)
  | .broken => (.error (.transport (.sending url)), false)
  | .silent => (.error (.timeout connection.timeout), false)
  | .abandoned =>
    match cancellation with
    | .none => (.error (.timeout connection.timeout), true)
    | .live | .fired => (.error .cancelled, true)

/-- Sends a message and dumps it, and its reply if there is one. -/
def deliver (connection : Connection) (network : Network World) (traffic : Traffic World)
    (cancellation : Cancellation) (message : Message) : Sent World :=
  let traffic := { traffic with dumps := traffic.dumps ++ [connection.requestDump message] }
  if isSendable message.url then
    let (delivery, world) :=
      network traffic.world { message with headers := withDefaults message.headers }
    let (outcome, fires) := connection.outcome message.url.toText cancellation delivery
    let replyDumps := match outcome with
      | .ok reply => [connection.replyDump reply]
      | .error _ => []
    ⟨outcome, fires, { traffic with world, dumps := traffic.dumps ++ replyDumps }⟩
  else ⟨.error (.transport (.building message.url.toText)), false, traffic⟩

/-- Sends a request, unless its token has fired, and gives its reply, whatever the status. -/
def send (connection : Connection) (network : Network World) (traffic : Traffic World)
    (request : Request) (session : Session) : Sent World :=
  if request.isCancelled false then ⟨.error .cancelled, false, traffic⟩
  else match connection.message request session with
    | .error error => ⟨.error error, false, traffic⟩
    | .ok message => connection.deliver network traffic request.cancellation message

section

variable {connection : Connection} {network : Network World} {traffic : Traffic World}
  {request : Request} {session : Session}

-- The equation of `send` would be checked by running the parser of URLs, so `delta` opens it.

theorem send_cancelled (cancelled : request.isCancelled false = true) :
    connection.send network traffic request session = ⟨.error .cancelled, false, traffic⟩ := by
  delta send
  rw [if_pos cancelled]

theorem send_unwritten {error : ClientError} (live : request.isCancelled false = false)
    (failed : connection.message request session = .error error) :
    connection.send network traffic request session = ⟨.error error, false, traffic⟩ := by
  delta send
  rw [live, failed]
  rfl

theorem send_written {message : Message} (live : request.isCancelled false = false)
    (written : connection.message request session = .ok message) :
    connection.send network traffic request session =
      connection.deliver network traffic request.cancellation message := by
  delta send
  rw [live, written]
  rfl

end

/-- A reply counts only if it reports success. -/
def accept (reply : Reply) : Except ClientError Reply :=
  if Http.isSuccess reply.status then .ok reply
  else .error (ErrorDocument.decode reply.status reply.headers reply.body)

def dispatch (connection : Connection) (network : Network World) (traffic : Traffic World)
    (request : Request) (session : Session) : Exchange (Traffic World) :=
  let sent := connection.send network traffic request session
  ⟨sent.outcome.bind accept, [], sent.fires, sent.traffic⟩

end Connection

end ClusterRest.Transport
