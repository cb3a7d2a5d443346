import ClusterRest.Request
import ClusterRest.Session

/-!
One call of a client: a dispatch, and where a session was refused one renewal and one replay.
-/

namespace ClusterRest

/-- What one dispatch did: its outcome, the sessions that other callers stored meanwhile, whether
the caller's token fired, and the world after it. -/
structure Exchange (World : Type) where
  outcome : Except ClientError Reply
  writes : List Session
  fires : Bool
  world : World

/-- What one login did. No session is written meanwhile, since logins and writes share a lock. -/
structure Login (World : Type) where
  outcome : Except ClientError Session
  fires : Bool
  world : World

/-- Sends requests; with a login it renews refused sessions. -/
structure Coordinator (World : Type) where
  dispatch : World → Request → Session → Exchange World
  login? : Option (World → Login World)

/-- What happened during calls, in order. A session that a login grants or a caller sets stands here
as it was given, before the store numbers it. -/
inductive Entry where
  | dispatched (request : Request) (session : Session)
  | loggingIn
  | loggedIn (granted : Session)
  | sessionSet (given : Session)
  | fired
  deriving DecidableEq, Repr

/-- What calls read and change. -/
structure Run (World : Type) where
  store : SessionStore
  fired : Bool
  journal : List Entry
  world : World

/-- A step of a call, which may fail and keeps what it changed if it does. -/
abbrev Call (World : Type) := ExceptT ClientError (StateM (Run World))

namespace Run

variable {World : Type}

def start (world : World) : Run World := ⟨.empty, false, [], world⟩

def session (run : Run World) : Session := run.store.current

/-- A run as a call finds it: each call has a token of its own, which has not fired yet. -/
def begun (run : Run World) : Run World := { run with fired := false }

def note (run : Run World) (entry : Entry) : Run World :=
  { run with journal := run.journal ++ [entry] }

/-- Stores a session under the next generation. -/
def storeSession (run : Run World) (session : Session) : Run World :=
  { run with store := run.store.replace session }

/-- Some caller sets the session. -/
def setSession (run : Run World) (given : Session) : Run World :=
  (run.note (.sessionSet given)).storeSession given

def fire (run : Run World) (fires : Bool) : Run World :=
  if fires then { run.note .fired with fired := true } else run

def afterExchange (run : Run World) (exchange : Exchange World) : Run World :=
  (exchange.writes.foldl setSession { run with world := exchange.world }).fire exchange.fires

/-- What a login leaves behind; a session that it grants is not stored yet. -/
def afterLogin (run : Run World) (login : Login World) : Run World :=
  let run := { run with world := login.world }.fire login.fires
  match login.outcome with
  | .ok granted => run.note (.loggedIn granted)
  | .error _ => run

end Run

namespace Coordinator

variable {World : Type}

def isGuarded (coordinator : Coordinator World) : Bool := coordinator.login?.isSome

def checkCancelled (request : Request) : Call World Unit := do
  if request.isCancelled (← get).fired then throw .cancelled

/-- One dispatch with a given session. -/
def send (coordinator : Coordinator World) (request : Request) (session : Session) :
    Call World Reply := do
  modify (·.note (.dispatched request session))
  let exchange := coordinator.dispatch (← get).world request session
  modify (·.afterExchange exchange)
  exchange.outcome

/-- One login; its session is stored, and given back as stored. -/
def logIn (login : World → Login World) : Call World Session := do
  modify (·.note .loggingIn)
  let login := login (← get).world
  modify (·.afterLogin login)
  let granted ← login.outcome
  modify (·.storeSession granted)
  return (← get).session

/-- Stands in for a refused session: a newer one if there is one by now, else that of a login. -/
def renew (login : World → Login World) (stale : Nat) : Call World Session := do
  let current := (← get).session
  if stale < current.generation then return current else logIn login

def setSession (given : Session) : StateM (Run World) Session := do
  modify (·.setSession given)
  return (← get).session

/-- Logs in whatever session there is; nothing happens without a login. -/
def authenticate (coordinator : Coordinator World) : Call World Session :=
  match coordinator.login? with
  | none => return (← get).session
  | some login => logIn login

/-- Renews a refused session and sends the same request once more. -/
def replay (coordinator : Coordinator World) (login : World → Login World) (request : Request)
    (stale : Nat) : Call World Reply := do
  checkCancelled request
  let fresh ← tryCatch (renew login stale) fun cause => throw (.reauthenticationFailed cause)
  checkCancelled request
  coordinator.send request fresh

/-- Sends a request with the present session, and renews that where it is refused. -/
def execute (coordinator : Coordinator World) (request : Request) : Call World Reply := do
  modify (·.begun)
  let session := (← get).session
  checkCancelled request
  tryCatch (coordinator.send request session) fun refusal =>
    match coordinator.login? with
    | none => throw refusal
    | some login =>
      if refusal.isUnauthorized then coordinator.replay login request session.generation
      else throw refusal

def describe (coordinator : Coordinator World) (run : Run World) : String :=
  let mode := if coordinator.isGuarded then "guarded" else "direct"
  "RetryCoordinator \x7b mode: " ++ Text.quote mode ++ ", generation: " ++
    toString run.session.generation ++ ", .. \x7d"

end Coordinator

end ClusterRest
