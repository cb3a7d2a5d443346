import ClusterRest.Client
import ClusterRest.Transport.Connection
import ClusterRest.Transport.Tls

/-! Logging in over a connection, and clients that begin with one. -/

namespace ClusterRest.Transport

open Json (Value)

def loginPath : String := "/session/1/session"

def loginServices : List String := ["platform", "namespace"]

/-- The body of a login; its members keep this order. -/
def loginBody (username password : String) : Value := .object [
  ("services", .array (loginServices.map .string)),
  ("username", .string username),
  ("password", .string password)]

def loginRequest (username password : String) : Request :=
  (Request.post loginPath).withJson (loginBody username password)

/-- The cookies that a reply sets, as far as they are visible text. -/
def setCookies (reply : Reply) : List String :=
  (reply.headers.values setCookieName).filterMap Http.visibleText?

/-- The tokens that a login reply grants. -/
def grantedTokens (reply : Reply) : Except ClientError SessionTokens :=
  if reply.status = Http.created then
    match SessionTokens.ofCookies? (setCookies reply) with
    | some tokens => .ok tokens
    | none => .error .sessionTokenMissing
  else if reply.status = Http.unauthorized then .error .authenticationFailed
  else .error (.loginRefused reply.status (ClientError.preview (Bytes.toStringLossy reply.body)))

/-- What is worth a remark in a login reply. -/
def loginWarnings (reply : Reply) : List Warning :=
  if reply.status = Http.created then
    match SessionTokens.ofCookies? (setCookies reply) with
    | some tokens => tokens.warnings
    | none => []
  else if reply.status = Http.unauthorized then []
  else [.unexpectedLoginStatus reply.status]

variable {World : Type}

/-- One login: a request without a session, and the session that its reply grants. -/
def Connection.logIn (connection : Connection) (network : Network World)
    (username password : String) (traffic : Traffic World) : Login (Traffic World) :=
  let sent := connection.send network traffic (loginRequest username password) .empty
  match sent.outcome with
  | .error error => ⟨.error error, sent.fires, sent.traffic⟩
  | .ok reply =>
    let traffic :=
      { sent.traffic with warnings := sent.traffic.warnings ++ loginWarnings reply }
    ⟨(grantedTokens reply).map (Session.ofTokens · connection.endpoint), sent.fires, traffic⟩

def connectionOf (config : ClientConfig) : Connection where
  endpoint := config.endpoint
  credentials := match config.authMode with
    | .basic => .basic config.username config.password
    | .session => .session
  verbosity := config.verbosity
  timeout := config.timeout

def coordinatorOf (network : Network World) (config : ClientConfig) :
    Coordinator (Traffic World) where
  dispatch := (connectionOf config).dispatch network
  login? := match config.authMode with
    | .basic => none
    | .session => some ((connectionOf config).logIn network config.username config.password)

/-- A configuration names a cluster, a user and a password. -/
def validate (config : ClientConfig) : Except ClientError Unit :=
  if Text.isAllBlank config.endpoint then .error (.missingConfig .endpoint)
  else if config.username.isEmpty then .error (.missingConfig .username)
  else if config.password.isEmpty then .error (.missingConfig .password)
  else .ok ()

/-- A client of a cluster that answers: with sessions it logs in first, and then it asks for the
version. -/
def connect (files : Files) (network : Network World) (config : ClientConfig) :
    Call (Traffic World) (Client (Traffic World)) := do
  validate config
  setUp files config.tls
  let coordinator := coordinatorOf network config
  if coordinator.isGuarded then discard coordinator.authenticate
  let version ← coordinator.discoverVersion
  return { coordinator, settings := .ofConfig config, version }

end ClusterRest.Transport
