import ClusterRest.Proofs.Calls
import ClusterRest.Proofs.DumpedMessages

/-!
Dumps of whole runs. Two clients that differ only in the password, on networks whose replies differ
only in session tokens, do the same and are dumped alike, from the first login to the last call.
-/

namespace ClusterRest

open Transport

variable {World : Type}

/-- Runs that nobody tells apart who does not see the secrets in them. -/
structure Run.Alike (first second : Run (Traffic World)) : Prop where
  session : first.session.Alike second.session
  fired : first.fired = second.fired
  traffic : first.world.Alike second.world

/-! ### Calls that go alike -/

/-- Calls that end alike and leave alike runs behind, begun in alike runs. -/
def Call.Alike {α β : Type} (alike : α → β → Prop) (first : Call (Traffic World) α)
    (second : Call (Traffic World) β) : Prop :=
  ∀ run run', run.Alike run' →
    SameOutcome alike (first.perform run).1 (second.perform run').1 ∧
      (first.perform run).2.Alike (second.perform run').2

namespace Call.Alike

section

variable {α β γ δ : Type} {alike : α → β → Prop} {alike' : γ → δ → Prop}
  {first : Call (Traffic World) α} {second : Call (Traffic World) β}

theorem gives {value : α} {value' : β} (related : alike value value') :
    Call.Alike alike (pure value : Call (Traffic World) α) (pure value') :=
  fun _ _ runs => ⟨.given related, runs⟩

theorem fails (error : ClientError) :
    Call.Alike alike (throw error : Call (Traffic World) α) (throw error) :=
  fun _ _ runs => ⟨.failed error, runs⟩

theorem ends {outcome : Except ClientError α} {outcome' : Except ClientError β}
    (same : SameOutcome alike outcome outcome') :
    Call.Alike alike (liftM outcome : Call (Traffic World) α) (liftM outcome') :=
  fun _ _ runs => ⟨same, runs⟩

theorem reads : Call.Alike Run.Alike (get : Call (Traffic World) (Run (Traffic World))) get :=
  fun _ _ runs => ⟨.given runs, runs⟩

theorem changes {change change' : Run (Traffic World) → Run (Traffic World)}
    (keeps : ∀ run run', run.Alike run' → (change run).Alike (change' run')) :
    Call.Alike Eq (modify change : Call (Traffic World) Unit) (modify change') :=
  fun run run' runs => ⟨.given rfl, keeps run run' runs⟩

theorem bind {next : α → Call (Traffic World) γ} {next' : β → Call (Traffic World) δ}
    (calls : Call.Alike alike first second)
    (step : ∀ value value', alike value value' → Call.Alike alike' (next value) (next' value')) :
    Call.Alike alike' (first >>= next) (second >>= next') := by
  intro run run' runs
  obtain ⟨outcomes, after⟩ := calls run run' runs
  rw [perform_bind, perform_bind]
  generalize first.perform run = ended at outcomes after ⊢
  generalize second.perform run' = ended' at outcomes after ⊢
  obtain ⟨outcome, run⟩ := ended
  obtain ⟨outcome', run'⟩ := ended'
  cases outcomes with
  | failed error => exact ⟨.failed error, after⟩
  | given related => exact step _ _ related run run' after

theorem catches {first second : Call (Traffic World) α} {alike : α → α → Prop}
    {handler handler' : ClientError → Call (Traffic World) α}
    (calls : Call.Alike alike first second)
    (handles : ∀ error, Call.Alike alike (handler error) (handler' error)) :
    Call.Alike alike (tryCatch first handler) (tryCatch second handler') := by
  intro run run' runs
  obtain ⟨outcomes, after⟩ := calls run run' runs
  rw [perform_tryCatch, perform_tryCatch]
  generalize first.perform run = ended at outcomes after ⊢
  generalize second.perform run' = ended' at outcomes after ⊢
  obtain ⟨outcome, run⟩ := ended
  obtain ⟨outcome', run'⟩ := ended'
  cases outcomes with
  | failed error => exact handles error run run' after
  | given related => exact ⟨.given related, after⟩

theorem discards (calls : Call.Alike alike first second) :
    Call.Alike Eq (discard first) (discard second) :=
  calls.bind fun _ _ _ => .gives rfl

end

end Call.Alike

/-! ### Coordinators that go alike -/

structure Exchange.Alike (first second : Exchange (Traffic World)) : Prop where
  outcome : SameOutcome Reply.Alike first.outcome second.outcome
  writes : first.writes = second.writes
  fires : first.fires = second.fires
  traffic : first.world.Alike second.world

structure Login.Alike (first second : Login (Traffic World)) : Prop where
  outcome : SameOutcome Session.Alike first.outcome second.outcome
  fires : first.fires = second.fires
  traffic : first.world.Alike second.world

/-- Logins that go alike after alike traffic. -/
def SameLogin (first second : Traffic World → Login (Traffic World)) : Prop :=
  ∀ traffic traffic', traffic.Alike traffic' → (first traffic).Alike (second traffic')

/-- Coordinators that dispatch and log in alike. -/
structure Coordinator.Alike (first second : Coordinator (Traffic World)) : Prop where
  dispatch : ∀ traffic traffic', traffic.Alike traffic' → ∀ request session session',
    session.Alike session' →
    (first.dispatch traffic request session).Alike (second.dispatch traffic' request session')
  login : Option.Rel SameLogin first.login? second.login?

namespace Run.Alike

variable {first second : Run (Traffic World)}

theorem note (runs : first.Alike second) (entry entry' : Entry) :
    (first.note entry).Alike (second.note entry') :=
  ⟨runs.session, runs.fired, runs.traffic⟩

theorem begun (runs : first.Alike second) : first.begun.Alike second.begun :=
  ⟨runs.session, rfl, runs.traffic⟩

theorem fire (runs : first.Alike second) (fires : Bool) :
    (first.fire fires).Alike (second.fire fires) := by
  cases fires with
  | false => exact runs
  | true => exact ⟨runs.session, rfl, runs.traffic⟩

theorem storeSession (runs : first.Alike second) {session session' : Session}
    (sessions : session.Alike session') :
    (first.storeSession session).Alike (second.storeSession session') :=
  ⟨⟨congrArg (· + 1) runs.session.generation, sessions.referer, sessions.isAuthenticated,
    sessions.cookie, sessions.csrfToken⟩, runs.fired, runs.traffic⟩

theorem setSession (runs : first.Alike second) (given : Session) :
    (first.setSession given).Alike (second.setSession given) :=
  (runs.note _ _).storeSession (.refl given)

theorem setSessions (runs : first.Alike second) (writes : List Session) :
    (writes.foldl Run.setSession first).Alike (writes.foldl Run.setSession second) := by
  induction writes generalizing first second with
  | nil => exact runs
  | cons given rest ih => exact ih (runs.setSession given)

theorem afterExchange (runs : first.Alike second) {exchange exchange' : Exchange (Traffic World)}
    (exchanges : exchange.Alike exchange') :
    (first.afterExchange exchange).Alike (second.afterExchange exchange') := by
  have arrived : Run.Alike { first with world := exchange.world }
      { second with world := exchange'.world } :=
    ⟨runs.session, runs.fired, exchanges.traffic⟩
  rw [Run.afterExchange, Run.afterExchange, exchanges.writes, exchanges.fires]
  exact (arrived.setSessions _).fire _

theorem afterLogin (runs : first.Alike second) {login login' : Login (Traffic World)}
    (logins : login.Alike login') : (first.afterLogin login).Alike (second.afterLogin login') := by
  have arrived : Run.Alike { first with world := login.world }
      { second with world := login'.world } :=
    ⟨runs.session, runs.fired, logins.traffic⟩
  have fired := arrived.fire login'.fires
  have outcomes := logins.outcome
  rw [Run.afterLogin, Run.afterLogin, logins.fires]
  generalize login.outcome = outcome at outcomes ⊢
  generalize login'.outcome = outcome' at outcomes ⊢
  cases outcomes with
  | failed error => exact fired
  | given _ => exact fired.note _ _

end Run.Alike

namespace Coordinator

theorem checkCancelled_alike (request : Request) :
    Call.Alike Eq (checkCancelled request : Call (Traffic World) Unit)
      (checkCancelled request) := by
  rw [checkCancelled]
  refine Call.Alike.reads.bind fun run run' runs => ?_
  rw [runs.fired]
  split
  · exact .fails _
  · exact .gives rfl

variable {first second : Coordinator (Traffic World)}

theorem send_alike (same : first.Alike second) (request : Request) {session session' : Session}
    (sessions : session.Alike session') :
    Call.Alike Reply.Alike (first.send request session) (second.send request session') := by
  rw [send, send]
  refine (Call.Alike.changes fun run run' runs => runs.note _ _).bind fun _ _ _ => ?_
  refine Call.Alike.reads.bind fun run run' runs => ?_
  have exchanges := same.dispatch _ _ runs.traffic request _ _ sessions
  refine (Call.Alike.changes fun run run' runs => runs.afterExchange exchanges).bind fun _ _ _ => ?_
  exact .ends exchanges.outcome

theorem logIn_alike {login login' : Traffic World → Login (Traffic World)}
    (logins : SameLogin login login') :
    Call.Alike Session.Alike (logIn login) (logIn login') := by
  rw [logIn, logIn]
  refine (Call.Alike.changes fun run run' runs => runs.note _ _).bind fun _ _ _ => ?_
  refine Call.Alike.reads.bind fun run run' runs => ?_
  have ended := logins _ _ runs.traffic
  refine (Call.Alike.changes fun run run' runs => runs.afterLogin ended).bind fun _ _ _ => ?_
  refine (Call.Alike.ends ended.outcome).bind fun granted granted' sessions => ?_
  refine (Call.Alike.changes fun run run' runs => runs.storeSession sessions).bind fun _ _ _ => ?_
  exact Call.Alike.reads.bind fun run run' runs => .gives runs.session

theorem renew_alike {login login' : Traffic World → Login (Traffic World)}
    (logins : SameLogin login login') (stale : Nat) :
    Call.Alike Session.Alike (renew login stale) (renew login' stale) := by
  rw [renew, renew]
  refine Call.Alike.reads.bind fun run run' runs => ?_
  simp only [runs.session.generation]
  split
  · exact .gives runs.session
  · exact logIn_alike logins

theorem replay_alike (same : first.Alike second)
    {login login' : Traffic World → Login (Traffic World)} (logins : SameLogin login login')
    (request : Request) (stale : Nat) :
    Call.Alike Reply.Alike (first.replay login request stale)
      (second.replay login' request stale) := by
  rw [replay, replay]
  refine (checkCancelled_alike request).bind fun _ _ _ => ?_
  refine ((renew_alike logins stale).catches fun _ => .fails _).bind fun fresh fresh' sessions => ?_
  exact (checkCancelled_alike request).bind fun _ _ _ => send_alike same request sessions

/-- A call goes alike, whatever the secrets are that it is made with. -/
theorem execute_alike (same : first.Alike second) (request : Request) :
    Call.Alike Reply.Alike (first.execute request) (second.execute request) := by
  rw [execute, execute]
  refine (Call.Alike.changes fun run run' runs => runs.begun).bind fun _ _ _ => ?_
  refine Call.Alike.reads.bind fun run run' runs => ?_
  refine (checkCancelled_alike request).bind fun _ _ _ => ?_
  refine (send_alike same request runs.session).catches fun refusal => ?_
  have logins := same.login
  generalize first.login? = login at logins ⊢
  generalize second.login? = login' at logins ⊢
  cases logins with
  | none => exact .fails refusal
  | some logins =>
      simp only [runs.session.generation]
      split
      · exact replay_alike same logins request _
      · exact .fails refusal

theorem authenticate_alike (same : first.Alike second) :
    Call.Alike Session.Alike first.authenticate second.authenticate := by
  have logins := same.login
  rw [authenticate, authenticate]
  generalize first.login? = login at logins ⊢
  generalize second.login? = login' at logins ⊢
  cases logins with
  | none => exact Call.Alike.reads.bind fun run run' runs => .gives runs.session
  | some logins => exact logIn_alike logins

/-- The version is asked for alike, and the same one is found. -/
theorem discoverVersion_alike (same : first.Alike second) :
    Call.Alike Eq first.discoverVersion second.discoverVersion := by
  rw [discoverVersion, discoverVersion]
  refine (execute_alike same _).bind fun reply reply' replies => ?_
  rw [Reply.decode, Reply.decode, replies.body]
  refine (Call.Alike.ends (.refl (fun _ => rfl) _)).bind fun latest _ equal => ?_
  rw [equal]
  exact .ends (.refl (fun _ => rfl) _)

end Coordinator

/-! ### Clients on a network -/

namespace Transport

theorem accept_alike {reply reply' : Reply} (replies : reply.Alike reply') :
    SameOutcome Reply.Alike (Connection.accept reply) (Connection.accept reply') := by
  have contentType := replies.headers.values (by decide : "content-type" ≠ setCookieName)
  have page : ErrorDocument.isPage reply.headers = ErrorDocument.isPage reply'.headers := by
    rw [ErrorDocument.isPage, ErrorDocument.isPage, Http.Headers.first?, Http.Headers.first?,
      contentType]
  have decoded : ErrorDocument.decode reply.status reply.headers reply.body =
      ErrorDocument.decode reply'.status reply'.headers reply'.body := by
    rw [ErrorDocument.decode, ErrorDocument.decode, page, replies.status, replies.body]
  rw [Connection.accept, Connection.accept, decoded, replies.status]
  split
  · exact .given replies
  · exact .failed _

/-- The login that was answered in some way, for an endpoint to refer to. -/
def answeredLogin (sent : Sent World) (referer : String) : Login (Traffic World) :=
  match sent.outcome with
  | .error error => ⟨.error error, sent.fires, sent.traffic⟩
  | .ok reply =>
    ⟨(grantedTokens reply).map (Session.ofTokens · referer), sent.fires,
      { sent.traffic with warnings := sent.traffic.warnings ++ loginWarnings reply }⟩

theorem logIn_eq (connection : Connection) (network : Network World) (username password : String)
    (traffic : Traffic World) :
    connection.logIn network username password traffic =
      answeredLogin (connection.send network traffic (loginRequest username password) .empty)
        connection.endpoint := by
  unfold Connection.logIn
  -- nothing of the request is to be computed
  generalize connection.send network traffic (loginRequest username password) .empty = sent
  rfl

theorem answeredLogin_alike {first second : Sent World} (sent : first.Alike second)
    (referer : String) : (answeredLogin first referer).Alike (answeredLogin second referer) := by
  obtain ⟨outcome, fires, traffic⟩ := first
  obtain ⟨outcome', fires', traffic'⟩ := second
  obtain ⟨outcomes, equal, traffics⟩ := sent
  rw [answeredLogin, answeredLogin]
  cases outcomes with
  | failed error => exact ⟨.failed error, equal, traffics⟩
  | given replies =>
      exact ⟨grantedTokens_alike replies referer, equal, traffics.world, traffics.dumps⟩

section

variable {connection connection' : Connection} (same : connection.Alike connection')
  {network network' : Network World} (networks : Network.Alike network network')

include same networks

theorem dispatch_alike {traffic traffic' : Traffic World} (traffics : traffic.Alike traffic')
    (request : Request) {session session' : Session} (sessions : session.Alike session') :
    (connection.dispatch network traffic request session).Alike
      (connection'.dispatch network' traffic' request session') := by
  have sent := send_alike same networks traffics (Request.Alike.refl request) sessions
  rw [Connection.dispatch, Connection.dispatch]
  generalize connection.send network traffic request session = one at sent ⊢
  generalize connection'.send network' traffic' request session' = other at sent ⊢
  exact ⟨sent.outcome.bind fun _ _ => accept_alike, rfl, sent.fires, sent.traffic⟩

theorem logIn_alike (username password password' : String) :
    SameLogin (connection.logIn network username password)
      (connection'.logIn network' username password') := by
  intro traffic traffic' traffics
  rw [logIn_eq, logIn_eq, same.endpoint]
  exact answeredLogin_alike (send_alike same networks traffics
    (loginRequest_alike username password password') (Session.Alike.refl Session.empty)) _

end

end Transport

/-- The same configuration with another password. -/
def ClientConfig.withPassword (config : ClientConfig) (password : String) : ClientConfig :=
  { config with password }

namespace Transport

section

variable {config : ClientConfig} {password : String} {network network' : Network World}

theorem connectionOf_alike (config : ClientConfig) (password : String) :
    (connectionOf config).Alike (connectionOf (config.withPassword password)) := by
  have mode : (config.withPassword password).authMode = config.authMode := rfl
  refine ⟨rfl, ?_, rfl, rfl⟩
  rw [connectionOf, connectionOf, mode]
  cases config.authMode <;> rfl

theorem coordinatorOf_alike (networks : Network.Alike network network') :
    (coordinatorOf network config).Alike
      (coordinatorOf network' (config.withPassword password)) := by
  have connections := connectionOf_alike config password
  have mode : (config.withPassword password).authMode = config.authMode := rfl
  constructor
  case dispatch =>
    intro traffic traffic' traffics request session session' sessions
    exact dispatch_alike connections networks traffics request sessions
  case login =>
    have logins := logIn_alike connections networks config.username config.password password
    rw [coordinatorOf, coordinatorOf, mode]
    cases config.authMode with
    | basic => exact .none
    | session => exact .some logins

theorem validate_withPassword (filled : config.password ≠ "") (filled' : password ≠ "") :
    validate (config.withPassword password) = validate config := by
  have present : config.password.isEmpty = false := by simpa using filled
  have present' : password.isEmpty = false := by simpa using filled'
  simp only [validate, ClientConfig.withPassword, present, present']

/-- Clients whose coordinators go alike. -/
def SameClient (first second : Client (Traffic World)) : Prop :=
  first.coordinator.Alike second.coordinator

theorem isGuarded_alike {first second : Coordinator (Traffic World)} (same : first.Alike second) :
    first.isGuarded = second.isGuarded := by
  have logins := same.login
  rw [Coordinator.isGuarded, Coordinator.isGuarded]
  generalize first.login? = login at logins ⊢
  generalize second.login? = login' at logins ⊢
  cases logins <;> rfl

/-- Clients with different passwords are set up alike. -/
theorem connect_alike (filled : config.password ≠ "") (filled' : password ≠ "")
    (networks : Network.Alike network network') (files : Files) :
    Call.Alike SameClient (connect files network config)
      (connect files network' (config.withPassword password)) := by
  have same : (coordinatorOf network config).Alike
      (coordinatorOf network' (config.withPassword password)) := coordinatorOf_alike networks
  have tls : (config.withPassword password).tls = config.tls := rfl
  rw [connect, connect, validate_withPassword filled filled', tls]
  refine (Call.Alike.ends (.refl (fun _ => rfl) _)).bind fun _ _ _ => ?_
  refine (Call.Alike.ends (.refl (fun _ => rfl) _)).bind fun _ _ _ => ?_
  generalize coordinatorOf network config = coordinator at same ⊢
  generalize coordinatorOf network' (config.withPassword password) = coordinator' at same ⊢
  simp only [isGuarded_alike same]
  cases coordinator'.isGuarded with
  | false =>
      exact (Coordinator.discoverVersion_alike same).bind fun _ _ _ => .gives same
  | true =>
      refine (Coordinator.authenticate_alike same).discards.bind fun _ _ _ => ?_
      exact (Coordinator.discoverVersion_alike same).bind fun _ _ _ => .gives same

end

end Transport

/-! ### Calls of a client -/

/-- What callers do with a client. -/
inductive ClientCall where
  | execute (request : Request)
  | executeUnit (request : Request)
  | executeRaw (request : Request)
  | get (path id : String) (params : Params)
  | delete (path id : String) (params : Params)
  | post (path id : String) (params : Params) (body : Json.Value)
  | put (path id : String) (params : Params) (body : Json.Value)
  | authenticate
  | setSession (given : Session)

namespace Client

/-- The run after a call of a client; its outcome goes to the caller. -/
def after (client : Client World) (run : Run World) : ClientCall → Run World
  | .execute request => (client.execute request).after run
  | .executeUnit request => (client.executeUnit request).after run
  | .executeRaw request => (client.executeRaw request).after run
  | .get path id params => (client.get path id params).after run
  | .delete path id params => (client.delete path id params).after run
  | .post path id params body => (client.post path id params body).after run
  | .put path id params body => (client.put path id params body).after run
  | .authenticate => client.authenticate.after run
  | .setSession given => ((Coordinator.setSession given).run run).2

variable {first second : Client (Traffic World)}

theorem executeRaw_alike (same : SameClient first second) (request : Request) :
    Call.Alike Reply.Alike (first.executeRaw request) (second.executeRaw request) :=
  Coordinator.execute_alike same request

theorem execute_alike (same : SameClient first second) (request : Request) :
    Call.Alike Eq (first.execute request) (second.execute request) := by
  rw [execute, execute]
  refine (executeRaw_alike same request).bind fun reply reply' replies => ?_
  have decoded : reply.decodeValue = reply'.decodeValue := by
    rw [Reply.decodeValue, Reply.decodeValue, Reply.decode, Reply.decode, replies.body]
  rw [decoded]
  exact .ends (.refl (fun _ => rfl) _)

theorem after_alike (same : SameClient first second) {run run' : Run (Traffic World)}
    (runs : run.Alike run') (call : ClientCall) :
    (first.after run call).Alike (second.after run' call) := by
  cases call with
  | execute request => exact (execute_alike same request run run' runs).2
  | executeUnit request => exact ((executeRaw_alike same request).discards run run' runs).2
  | executeRaw request => exact (executeRaw_alike same request run run' runs).2
  | get path id params => exact (execute_alike same _ run run' runs).2
  | delete path id params => exact (execute_alike same _ run run' runs).2
  | post path id params body => exact (execute_alike same _ run run' runs).2
  | put path id params body => exact (execute_alike same _ run run' runs).2
  | authenticate =>
      exact ((Coordinator.authenticate_alike same).discards run run' runs).2
  | setSession given => exact runs.setSession given

theorem foldl_after_alike (same : SameClient first second) {run run' : Run (Traffic World)}
    (runs : run.Alike run') (calls : List ClientCall) :
    (calls.foldl first.after run).Alike (calls.foldl second.after run') := by
  induction calls generalizing run run' with
  | nil => exact runs
  | cons call rest ih => exact ih (after_alike same runs call)

end Client

namespace Transport

/-- The dumps of a client: those of its setting up, and then those of calls. -/
def clientDumps (files : Files) (network : Network World) (world : World) (config : ClientConfig)
    (calls : List ClientCall) : List String :=
  match (connect files network config).perform (.start (.start world)) with
  | (.error _, run) => run.world.dumps
  | (.ok client, run) => (calls.foldl client.after run).world.dumps

/-- A network that answers from a script, whatever the messages are. -/
def Network.scripted (script : Nat → Delivery) : Network Nat :=
  fun turn _ => (script turn, turn + 1)

theorem scripted_alike {script script' : Nat → Delivery}
    (replies : ∀ turn, (script turn).Alike (script' turn)) :
    Network.Alike (Network.scripted script) (Network.scripted script') :=
  fun turn _ _ _ => ⟨replies turn, rfl⟩

theorem start_alike (world : World) :
    Run.Alike (.start (.start world)) (.start (.start world)) :=
  ⟨.refl _, rfl, rfl, rfl⟩

theorem clientDumps_alike {config : ClientConfig} {password : String}
    (filled : config.password ≠ "") (filled' : password ≠ "") {network network' : Network World}
    (networks : Network.Alike network network') (files : Files) (world : World)
    (calls : List ClientCall) :
    clientDumps files network world config calls =
      clientDumps files network' world (config.withPassword password) calls := by
  obtain ⟨outcomes, runs⟩ := connect_alike filled filled' networks files _ _ (start_alike world)
  rw [clientDumps, clientDumps]
  generalize (connect files network config).perform (.start (.start world)) = ended
    at outcomes runs ⊢
  generalize (connect files network' (config.withPassword password)).perform
    (.start (.start world)) = ended' at outcomes runs ⊢
  obtain ⟨outcome, run⟩ := ended
  obtain ⟨outcome', run'⟩ := ended'
  cases outcomes with
  | failed error => exact runs.traffic.dumps
  | given same => exact (Client.foldl_after_alike same runs calls).traffic.dumps

/-- Dumps tell neither the password of a client nor the tokens of its sessions: with another
password, and other tokens in the cookies that replies set, all of them are the same. -/
theorem scriptedDumps_alike {config : ClientConfig} {password : String}
    (filled : config.password ≠ "") (filled' : password ≠ "") {script script' : Nat → Delivery}
    (replies : ∀ turn, (script turn).Alike (script' turn)) (files : Files)
    (calls : List ClientCall) :
    clientDumps files (Network.scripted script) 0 config calls =
      clientDumps files (Network.scripted script') 0 (config.withPassword password) calls :=
  clientDumps_alike filled filled' (scripted_alike replies) files 0 calls

/-- The headers of a login reply that grants a session. -/
def grant (sessionId csrfToken : String) : Http.Headers := ⟨[(setCookieName, [
  Bytes.ofString ("isisessid=" ++ sessionId ++ "; path=/; HttpOnly"),
  Bytes.ofString ("isicsrf=" ++ csrfToken ++ "; path=/")])]⟩

/-- A login, a version, a refusal, another login, and plain replies from then on. -/
def renewalScript (first second : Http.Headers) : Nat → Delivery
  | 0 => .answered 201 first []
  | 1 => .answered 200 .empty (Bytes.ofString "\x7b\"latest\": \"16\"\x7d")
  | 2 => .answered 401 .empty []
  | 3 => .answered 201 second []
  | _ => .answered 200 .empty []

theorem renewalScript_alike {first second first' second' : Http.Headers}
    (same : first.SameButTokens first') (same' : second.SameButTokens second') (turn : Nat) :
    (renewalScript first second turn).Alike (renewalScript first' second' turn) := by
  match turn with
  | 0 => exact .answered 201 same []
  | 1 => exact .same _
  | 2 => exact .same _
  | 3 => exact .answered 201 same' []
  | _ + 4 => exact .same _

def verboseConfig : ClientConfig :=
  { ClientConfig.new "http://[::1]:8080" "admin" "secret" with
    authMode := .session
    verbosity := .high }

theorem scriptedDumps_renewal :
    let script := renewalScript (grant "S1" "C1") (grant "S2" "C2")
    let script' := renewalScript (grant "a=b, c" "~") (grant "S2" "C2")
    let calls := [.get "/platform/1/x" "" .empty]
    verboseConfig.password ≠ "" ∧ "\"\\" ≠ "" ∧ (∀ turn, (script turn).Alike (script' turn)) ∧
      clientDumps .empty (Network.scripted script) 0 verboseConfig calls =
        clientDumps .empty (Network.scripted script') 0 (verboseConfig.withPassword "\"\\") calls ∧
      (clientDumps .empty (Network.scripted script) 0 verboseConfig calls).length = 10 := by
  have filled : verboseConfig.password ≠ "" := by decide
  have filled' : "\"\\" ≠ "" := by decide
  have first : (grant "S1" "C1").SameButTokens (grant "a=b, c" "~") :=
    .cons ⟨rfl, .inr ⟨rfl, .cons (by decide) (.cons (by decide) .nil)⟩⟩ .nil
  have second : (grant "S2" "C2").SameButTokens (grant "S2" "C2") := .refl _
  have replies := renewalScript_alike first second
  exact ⟨filled, filled', replies, scriptedDumps_alike filled filled' replies .empty _,
    by decide +kernel⟩

end Transport

end ClusterRest
