import ClusterRest.ClientConfig
import ClusterRest.Coordinator
import ClusterRest.LatestVersion

/-! A client of one cluster: requests through a coordinator, JSON replies, and its settings. -/

namespace ClusterRest

open Json (Value)

/-- What a client keeps of its configuration. -/
structure ClientSettings where
  authMode : AuthMode
  username : String
  group : String
  volumesPath : String
  volumesPathPermissions : String
  ignoreUnresolvableHosts : Bool
  deriving DecidableEq, Repr

def ClientSettings.ofConfig (config : ClientConfig) : ClientSettings where
  authMode := config.authMode
  username := config.username
  group := config.group
  volumesPath := config.volumesPath
  volumesPathPermissions := config.volumesPathPermissions
  ignoreUnresolvableHosts := config.ignoreUnresolvableHosts

namespace Reply

/-- The body of a reply as a reader takes it; none where it is empty. -/
def decode {α : Type} (reply : Reply) (reader : Json.Reader α) : Except ClientError (Option α) :=
  if reply.body.isEmpty then .ok none
  else match Json.readWhole reader reply.body with
    | .ok value => .ok (some value)
    | .error fault => .error (.ofFault fault reply.body)

def decodeValue (reply : Reply) : Except ClientError (Option Value) :=
  reply.decode (Json.value Json.depthLimit)

end Reply

structure Client (World : Type) where
  coordinator : Coordinator World
  settings : ClientSettings
  version : ApiVersion

namespace Client

variable {World : Type}

/-- A client around a given coordinator: it uses sessions just where this one can log in. -/
def ofCoordinator (config : ClientConfig) (coordinator : Coordinator World)
    (version : ApiVersion) : Client World where
  coordinator
  settings :=
    { ClientSettings.ofConfig config with
      authMode := if coordinator.isGuarded then .session else .basic }
  version

def executeRaw (client : Client World) (request : Request) : Call World Reply :=
  client.coordinator.execute request

def executeUnit (client : Client World) (request : Request) : Call World Unit := do
  discard (client.executeRaw request)

/-- Sends a request and reads the JSON value of the reply. -/
def execute (client : Client World) (request : Request) : Call World (Option Value) := do
  (← client.executeRaw request).decodeValue

def get (client : Client World) (path id : String) (params : Params) :
    Call World (Option Value) :=
  client.execute (((Request.get path).withId id).withParams params)

def delete (client : Client World) (path id : String) (params : Params) :
    Call World (Option Value) :=
  client.execute (((Request.delete path).withId id).withParams params)

def post (client : Client World) (path id : String) (params : Params) (body : Value) :
    Call World (Option Value) :=
  client.execute ((((Request.post path).withId id).withParams params).withJson body)

def put (client : Client World) (path id : String) (params : Params) (body : Value) :
    Call World (Option Value) :=
  client.execute ((((Request.put path).withId id).withParams params).withJson body)

def authenticate (client : Client World) : Call World Unit := do
  discard client.coordinator.authenticate

/-- The path of a volume below the root of all volumes. -/
def volumePath (client : Client World) (name : String) : String :=
  .ofList (dropLastSlashes client.settings.volumesPath.toList) ++ "/" ++ name
where
  dropLastSlashes (path : List Char) : List Char :=
    (path.reverse.dropWhile (· = '/')).reverse

end Client

/-- Asks a cluster for its version. -/
def Coordinator.discoverVersion {World : Type} (coordinator : Coordinator World) :
    Call World ApiVersion := do
  let reply ← coordinator.execute (Request.get ApiVersion.latestPath)
  let latest ← reply.decode ApiVersion.reportReader
  ApiVersion.ofReport latest.join

end ClusterRest
