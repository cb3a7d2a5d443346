import ClusterRest.Proofs.Calls
import ClusterRest.Proofs.Cookies
import ClusterRest.Proofs.Outcomes
import ClusterRest.Proofs.ReportedVersions
import ClusterRest.Transport.Connect
import Mathlib.Data.List.Forall2

/-!
Clients while they are opened. Main statement: an opening logs in if it uses sessions, asks for the
version, and does both once more at most, if the fresh session was refused; it stops with the first
login that fails, and a client that it gives is of a supported version and holds the session of the
last login.
-/

namespace ClusterRest.Transport

/-! ### What is sent, and what comes back -/

/-- A network that answers from a script and keeps what was sent. -/
def Network.recording (script : Nat → Delivery) : Network (List Message) :=
  fun sent message => (script sent.length, sent ++ [message])

/-- A message as a request to an endpoint determines it, apart from its headers. -/
structure Message.Carries (message : Message) (endpoint method path : String)
    (body : Option Bytes) : Prop where
  method : message.method = method
  url : ∃ url, Endpoint.url endpoint path "" .empty = .ok url ∧
    message.url = withoutUserinfo url
  body : message.body = body

/-- The two kinds of requests that open a client. -/
inductive OpeningStep where
  | login
  | query
  deriving DecidableEq, Repr

/-- The message that takes a step. -/
def OpeningStep.TakenBy (config : ClientConfig) (message : Message) : OpeningStep → Prop
  | .login => message.Carries config.endpoint "POST" "/session/1/session"
      (some (Bytes.ofString (loginBody config.username config.password).compact))
  | .query => message.Carries config.endpoint "GET" "/platform/latest" none

/-- The steps of an opening that is refused its first session; others take fewer of them. -/
def openingSteps : AuthMode → List OpeningStep
  | .basic => [.query]
  | .session => [.login, .query, .login, .query]

theorem login_due {mode : AuthMode} {turn : Nat} :
    (openingSteps mode)[turn]? = some .login ↔ mode = .session ∧ (turn = 0 ∨ turn = 2) := by
  cases mode <;> rcases turn with _ | _ | _ | _ | turn <;> simp [openingSteps]

theorem query_due {mode : AuthMode} {turn : Nat} :
    (openingSteps mode)[turn]? = some .query ↔
      mode = .basic ∧ turn = 0 ∨ mode = .session ∧ (turn = 1 ∨ turn = 3) := by
  cases mode <;> rcases turn with _ | _ | _ | _ | turn <;> simp [openingSteps]

/-- An answer that refuses the session: its status is 401, and its body is an error document. -/
inductive Delivery.RefusesSession : Delivery → Prop where
  | refused {headers : Http.Headers} {body : Bytes} {error : ErrorReply}
      (decoded : ErrorDocument.decode 401 headers body = .reply error) :
      Delivery.RefusesSession (.answered 401 headers body)

/-- The cookies that headers set, as far as they are visible text. -/
def cookiesSet (headers : Http.Headers) : List String :=
  (headers.values "set-cookie").filterMap Http.visibleText?

/-- An answer to a login that grants tokens. -/
inductive Delivery.Grants : Delivery → SessionTokens → Prop where
  | granted {headers : Http.Headers} {body : Bytes} {tokens : SessionTokens}
      (found : SessionTokens.ofCookies? (cookiesSet headers) = some tokens) :
      Delivery.Grants (.answered 201 headers body) tokens

/-- What becomes of a login that grants nothing. -/
inductive GrantsNothing (config : ClientConfig) (message : Message) : Delivery → ClientError → Prop
    where
  | unauthorized (headers : Http.Headers) (body : Bytes) :
      GrantsNothing config message (.answered 401 headers body) .authenticationFailed
  | noCookie {headers : Http.Headers} (body : Bytes)
      (missing : SessionTokens.ofCookies? (cookiesSet headers) = none) :
      GrantsNothing config message (.answered 201 headers body) .sessionTokenMissing
  | unexpected {status : Nat} (headers : Http.Headers) (body : Bytes)
      (notGranted : status ≠ 201) (notRefused : status ≠ 401) :
      GrantsNothing config message (.answered status headers body)
        (.loginRefused status (.ofList ((Bytes.toStringLossy body).toList.take 200)))
  | unreachable :
      GrantsNothing config message .unreachable (.transport (.connecting message.url.toText))
  | broken : GrantsNothing config message .broken (.transport (.sending message.url.toText))
  | silent : GrantsNothing config message .silent (.timeout config.timeout)
  | abandoned : GrantsNothing config message .abandoned (.timeout config.timeout)

/-- An answer that reports a version. -/
inductive Delivery.Reports : Delivery → ApiVersion → Prop where
  | reported {status : Nat} {headers : Http.Headers} {body : Bytes} {text : String}
      {version : ApiVersion} (success : Http.isSuccess status = true)
      (latest : Json.readWhole ApiVersion.reportReader body = .ok (some text))
      (parsed : ApiVersion.parse? text = some version) :
      Delivery.Reports (.answered status headers body) version

/-! ### One request -/

section

variable {connection : Connection} {script : Nat → Delivery} {request : Request}
  {session : Session}

theorem kept_of_headerValue {text : String} {error : ClientError}
    (failed : headerValue text = .error error) : error.isUnauthorized = false := by
  rw [headerValue] at failed
  split at failed
  · cases failed
  · cases failed
    rfl

theorem kept_of_sessionHeaders {headers : Http.Headers} {error : ClientError}
    (failed : sessionHeaders session headers = .error error) : error.isUnauthorized = false := by
  rw [sessionHeaders] at failed
  cases authenticated : session.isAuthenticated with
  | false => simp [authenticated, pure, Except.pure] at failed
  | true =>
      rw [authenticated] at failed
      rcases bind_eq_error.mp failed with failed | ⟨_, _, failed⟩
      · exact kept_of_headerValue failed
      rcases bind_eq_error.mp failed with failed | ⟨_, _, failed⟩
      · exact kept_of_headerValue failed
      rcases bind_eq_error.mp failed with failed | ⟨_, _, failed⟩
      · exact kept_of_headerValue failed
      · cases failed

theorem kept_of_headers {url : Url} {error : ClientError}
    (failed : connection.headers url request session = .error error) :
    error.isUnauthorized = false := by
  rw [Connection.headers] at failed
  split at failed
  · cases failed
  · rcases bind_eq_error.mp failed with failed | ⟨_, _, failed⟩
    · exact kept_of_sessionHeaders failed
    · cases failed

theorem kept_of_url {endpoint path id : String} {params : Params} {error : ClientError}
    (failed : Endpoint.url endpoint path id params = .error error) :
    error.isUnauthorized = false := by
  -- The equation of `url` would be checked by running the parser.
  delta Endpoint.url at failed
  cases parsed : Url.parse (Endpoint.join endpoint path id params) with
  | ok url => simp only [parsed, reduceCtorEq] at failed
  | error cause =>
      simp only [parsed] at failed
      cases failed
      rfl

/-- A request that cannot be sent asks for no new session. -/
theorem kept_of_message {error : ClientError}
    (failed : connection.message request session = .error error) :
    error.isUnauthorized = false := by
  rw [Connection.message] at failed
  rcases bind_eq_error.mp failed with failed | ⟨url, _, failed⟩
  · exact kept_of_url failed
  rcases bind_eq_error.mp failed with failed | ⟨headers, _, failed⟩
  · exact kept_of_headers failed
  cases hosted : hasHost url with
  | true => rw [hosted] at failed; cases failed
  | false =>
      rw [hosted] at failed
      cases failed
      rfl

theorem carries_of_message {message : Message} (bare : request.id = "")
    (unasked : request.params = .empty)
    (written : connection.message request session = .ok message) (headers : Http.Headers) :
    Message.Carries { message with headers } connection.endpoint request.method request.path
      request.body.content? := by
  rw [Connection.message, bare, unasked] at written
  obtain ⟨url, addressed, written⟩ := bind_eq_ok.mp written
  obtain ⟨headers, _, written⟩ := bind_eq_ok.mp written
  cases hosted : hasHost url with
  | false => rw [hosted] at written; cases written
  | true =>
      rw [hosted] at written
      cases written
      exact ⟨rfl, ⟨url, addressed, rfl⟩, rfl⟩

/-- The outcome of a request and the messages sent by then: it is given up before it is sent, for
no reason that asks for a new session, or its turn of the script decides. -/
inductive Sending (connection : Connection) (script : Nat → Delivery) (request : Request)
    (before : List Message) : Except ClientError Reply → List Message → Prop where
  | unsent {error : ClientError} (kept : error.isUnauthorized = false) :
      Sending connection script request before (.error error) before
  | sent {message : Message}
      (carries : message.Carries connection.endpoint request.method request.path
        request.body.content?) :
      Sending connection script request before
        (connection.outcome message.url.toText request.cancellation (script before.length)).1
        (before ++ [message])

theorem send_recording (connection : Connection) (script : Nat → Delivery) {request : Request}
    (bare : request.id = "") (unasked : request.params = .empty) (session : Session)
    (traffic : Traffic (List Message)) :
    let sent := connection.send (Network.recording script) traffic request session
    Sending connection script request traffic.world sent.outcome sent.traffic.world := by
  cases live : request.isCancelled false with
  | true =>
      rw [Connection.send_cancelled live]
      exact .unsent rfl
  | false =>
      cases written : connection.message request session with
      | error error =>
          rw [Connection.send_unwritten live written]
          exact .unsent (kept_of_message written)
      | ok message =>
          rw [Connection.send_written live written]
          by_cases sendable : isSendable message.url = true
          · have carries :=
              carries_of_message bare unasked written (withDefaults message.headers)
            simp only [Connection.deliver, if_pos sendable]
            exact .sent carries
          · simp only [Connection.deliver, if_neg sendable]
            exact .unsent rfl

end

/-! ### One login -/

section

variable {config : ClientConfig} {script : Nat → Delivery}

/-- How a login ends, and the messages sent by then. -/
inductive LoggingIn (config : ClientConfig) (script : Nat → Delivery) (before : List Message) :
    Except ClientError Session → List Message → Prop where
  | unsent (error : ClientError) : LoggingIn config script before (.error error) before
  | failed {message : Message} {cause : ClientError}
      (taken : OpeningStep.login.TakenBy config message)
      (fails : GrantsNothing config message (script before.length) cause) :
      LoggingIn config script before (.error cause) (before ++ [message])
  | granted {message : Message} {tokens : SessionTokens}
      (taken : OpeningStep.login.TakenBy config message)
      (grants : (script before.length).Grants tokens) :
      LoggingIn config script before (.ok (.ofTokens tokens config.endpoint))
        (before ++ [message])

/-- A login that was answered or not grants tokens or fails. -/
theorem delivered_cases (config : ClientConfig) (message : Message) (delivery : Delivery) :
    let outcome := ((connectionOf config).outcome message.url.toText .none delivery).1
    (∃ tokens, outcome.bind grantedTokens = .ok tokens ∧ delivery.Grants tokens) ∨
      ∃ cause, outcome.bind grantedTokens = .error cause ∧
        GrantsNothing config message delivery cause := by
  cases delivery with
  | unreachable => exact .inr ⟨_, rfl, .unreachable⟩
  | broken => exact .inr ⟨_, rfl, .broken⟩
  | silent => exact .inr ⟨_, rfl, .silent⟩
  | abandoned => exact .inr ⟨_, rfl, .abandoned⟩
  | answered status headers body =>
      have tokens_eq : (Except.ok ⟨status, headers, body⟩ : Except ClientError Reply).bind
          grantedTokens = grantedTokens ⟨status, headers, body⟩ := rfl
      simp only [Connection.outcome, tokens_eq, grantedTokens]
      split
      next created =>
        have created : status = 201 := created
        subst created
        have cookies : setCookies ⟨201, headers, body⟩ = cookiesSet headers := rfl
        rw [cookies]
        cases found : SessionTokens.ofCookies? (cookiesSet headers) with
        | some tokens => exact .inl ⟨tokens, rfl, .granted found⟩
        | none => exact .inr ⟨_, rfl, .noCookie body found⟩
      next notCreated =>
        split
        next unauthorized =>
          have unauthorized : status = 401 := unauthorized
          subst unauthorized
          exact .inr ⟨_, rfl, .unauthorized headers body⟩
        next unexpected => exact .inr ⟨_, rfl, .unexpected headers body notCreated unexpected⟩

theorem logIn_recording (config : ClientConfig) (script : Nat → Delivery)
    (traffic : Traffic (List Message)) :
    let login := (connectionOf config).logIn (Network.recording script) config.username
      config.password traffic
    LoggingIn config script traffic.world login.outcome login.world.world := by
  have sending := send_recording (connectionOf config) script
    (rfl : (loginRequest config.username config.password).id = "") rfl .empty traffic
  unfold Connection.logIn
  -- nothing of the request is to be computed
  generalize (connectionOf config).send (Network.recording script) traffic
    (loginRequest config.username config.password) .empty = sent at sending ⊢
  obtain ⟨outcome, fires, world, dumps, warnings⟩ := sent
  simp only at sending ⊢
  cases sending with
  | unsent kept => exact .unsent _
  | @sent message carries =>
      have taken : OpeningStep.login.TakenBy config message := carries
      have decided := delivered_cases config message (script traffic.world.length)
      have tokenless : (loginRequest config.username config.password).cancellation = .none := rfl
      rw [tokenless]
      generalize ((connectionOf config).outcome message.url.toText .none
        (script traffic.world.length)).1 = outcome at decided ⊢
      cases outcome with
      | error error =>
          rcases decided with ⟨tokens, read, _⟩ | ⟨cause, read, fails⟩
          · cases read
          · cases read
            exact .failed taken fails
      | ok reply =>
          rcases decided with ⟨tokens, read, grants⟩ | ⟨cause, read, fails⟩
          · have read : grantedTokens reply = .ok tokens := read
            simp only [read]
            exact .granted taken grants
          · have read : grantedTokens reply = .error cause := read
            simp only [read]
            exact .failed taken fails

end

/-! ### One query -/

/-- What an answer to the query makes of it: a reply that reports success, or an error that asks for
a new session only if the answer refuses the present one. -/
structure Answers (delivery : Delivery) (outcome : Except ClientError Reply) : Prop where
  succeeds : ∀ reply, outcome = .ok reply →
    delivery = .answered reply.status reply.headers reply.body ∧
      Http.isSuccess reply.status = true
  refuses : ∀ error, outcome = .error error → error.isUnauthorized = true →
    delivery.RefusesSession

/-- How a query ends, and the messages sent by then. -/
inductive Asking (config : ClientConfig) (script : Nat → Delivery) (before : List Message) :
    Except ClientError Reply → List Message → Prop where
  | unsent {error : ClientError} (kept : error.isUnauthorized = false) :
      Asking config script before (.error error) before
  | sent {message : Message} {outcome : Except ClientError Reply}
      (taken : OpeningStep.query.TakenBy config message)
      (answers : Answers (script before.length) outcome) :
      Asking config script before outcome (before ++ [message])

def versionRequest : Request := .get ApiVersion.latestPath

theorem refuses_of_decode {status : Nat} {headers : Http.Headers} {body : Bytes}
    (refused : (ErrorDocument.decode status headers body).isUnauthorized = true) :
    (Delivery.answered status headers body).RefusesSession := by
  have reported {error : ErrorReply} (decoded : ErrorDocument.decode status headers body =
      .reply error) (same : error.status = status) :
      (Delivery.answered status headers body).RefusesSession := by
    rw [decoded] at refused
    have unauthorized : error.status = 401 := by
      simpa [ClientError.isUnauthorized, ClientError.status?, Http.unauthorized] using refused
    have status_eq : status = 401 := same.symm.trans unauthorized
    subst status_eq
    exact .refused decoded
  by_cases page : ErrorDocument.isPage headers = true
  · exact reported (if_pos page) rfl
  · by_cases blank : body.all isAsciiBlank = true
    · exact reported ((if_neg page).trans (if_pos blank)) rfl
    · have decoded : ErrorDocument.decode status headers body = _ :=
        (if_neg page).trans (if_neg blank)
      cases read : Json.readWhole ErrorDocument.reader body with
      | ok entries =>
          rw [read] at decoded
          exact reported decoded rfl
      | error fault =>
          rw [decoded, read] at refused
          cases refused

theorem answers_delivered (config : ClientConfig) (message : Message) (delivery : Delivery) :
    Answers delivery
      (((connectionOf config).outcome message.url.toText .none delivery).1.bind
        Connection.accept) := by
  cases delivery with
  | unreachable | broken | silent | abandoned =>
      constructor
      · intro reply ok
        cases ok
      · intro error failed unauthorized
        cases failed
        cases unauthorized
  | answered status headers body =>
      have accepted : (Except.ok ⟨status, headers, body⟩ : Except ClientError Reply).bind
          Connection.accept = Connection.accept ⟨status, headers, body⟩ := rfl
      simp only [Connection.outcome, accepted, Connection.accept]
      cases success : Http.isSuccess status with
      | true =>
          constructor
          · intro reply ok
            cases ok
            exact ⟨rfl, success⟩
          · intro error failed
            cases failed
      | false =>
          constructor
          · intro reply ok
            cases ok
          · intro error failed unauthorized
            cases failed
            exact refuses_of_decode unauthorized

theorem dispatch_recording (config : ClientConfig) (script : Nat → Delivery)
    (traffic : Traffic (List Message)) (session : Session) :
    let exchange := (connectionOf config).dispatch (Network.recording script) traffic
      versionRequest session
    Asking config script traffic.world exchange.outcome exchange.world.world := by
  have sending := send_recording (connectionOf config) script
    (rfl : versionRequest.id = "") rfl session traffic
  unfold Connection.dispatch
  generalize (connectionOf config).send (Network.recording script) traffic versionRequest
    session = sent at sending ⊢
  obtain ⟨outcome, fires, world, dumps, warnings⟩ := sent
  simp only at sending ⊢
  cases sending with
  | unsent kept => exact .unsent kept
  | @sent message carries =>
      have taken : OpeningStep.query.TakenBy config message := carries
      exact .sent taken (answers_delivered config message (script traffic.world.length))

/-! ### The query with a renewal -/

/-- How the version is asked for: once, or once more after a login that stands in for the refused
session. -/
inductive Discovery (config : ClientConfig) (script : Nat → Delivery) (before : List Message)
    (store : SessionStore) : Except ClientError Reply → List Message → SessionStore → Prop
    where
  | settled {outcome : Except ClientError Reply} {sent : List Message}
      (asking : Asking config script before outcome sent) :
      Discovery config script before store outcome sent store
  | loginFailed {message : Message} {cause : ClientError} {sent : List Message}
      (guarded : config.authMode = .session)
      (taken : OpeningStep.query.TakenBy config message)
      (refuses : (script before.length).RefusesSession)
      (loggingIn : LoggingIn config script (before ++ [message]) (.error cause) sent) :
      Discovery config script before store (.error (.reauthenticationFailed cause)) sent store
  | renewed {message : Message} {session : Session} {outcome : Except ClientError Reply}
      {middle sent : List Message} (guarded : config.authMode = .session)
      (taken : OpeningStep.query.TakenBy config message)
      (refuses : (script before.length).RefusesSession)
      (loggingIn : LoggingIn config script (before ++ [message]) (.ok session) middle)
      (asking : Asking config script middle outcome sent) :
      Discovery config script before store outcome sent (store.replace session)

section

variable {config : ClientConfig} {script : Nat → Delivery}
  {run answered : Run (Traffic (List Message))}
  {login : Traffic (List Message) → Login (Traffic (List Message))}

/-- Nobody else writes sessions while a client is opened. -/
theorem store_afterSend (run : Run (Traffic (List Message))) :
    ((coordinatorOf (Network.recording script) config).afterSend versionRequest run).store =
      run.store := by
  rw [Coordinator.afterSend_store]
  rfl

theorem login_of_guarded
    (guarded : (coordinatorOf (Network.recording script) config).login? = some login) :
    config.authMode = .session ∧
      login = (connectionOf config).logIn (Network.recording script) config.username
        config.password := by
  simp only [coordinatorOf] at guarded
  cases mode : config.authMode with
  | basic => simp only [mode] at guarded; cases guarded
  | session =>
      simp only [mode, Option.some.injEq] at guarded
      exact ⟨rfl, guarded.symm⟩

theorem exchange_recording (config : ClientConfig) (script : Nat → Delivery)
    (run : Run (Traffic (List Message))) :
    let exchange := (coordinatorOf (Network.recording script) config).exchange versionRequest run
    Asking config script run.world.world exchange.outcome exchange.world.world :=
  dispatch_recording config script run.world run.session

theorem refusal_recording
    (refusal : Coordinator.Refusal (coordinatorOf (Network.recording script) config)
      versionRequest run login answered) :
    answered.store = run.store ∧
      ∃ message, OpeningStep.query.TakenBy config message ∧
        (script run.world.world.length).RefusesSession ∧
        answered.world.world = run.world.world ++ [message] := by
  have asking := exchange_recording config script run.begun
  have refused := refusal.refused
  have store_eq : answered.store = run.store := by
    rw [refusal.answered_eq, store_afterSend]
    rfl
  rw [refusal.world_eq]
  generalize (coordinatorOf (Network.recording script) config).exchange versionRequest run.begun =
    exchange at asking refused ⊢
  obtain ⟨outcome, writes, fires, world, dumps, warnings⟩ := exchange
  simp only [Exchange.isRefused] at asking refused ⊢
  cases outcome with
  | ok reply => cases refused
  | error error =>
      simp only at refused
      cases asking with
      | unsent kept => rw [kept] at refused; cases refused
      | @sent message _ taken answers =>
          exact ⟨store_eq, message, taken, answers.refuses error rfl refused, rfl⟩

end

theorem execute_recording (config : ClientConfig) (script : Nat → Delivery)
    (run : Run (Traffic (List Message))) :
    let call := (coordinatorOf (Network.recording script) config).execute versionRequest
    Discovery config script run.world.world run.store (call.outcome run)
      (call.after run).world.world (call.after run).store := by
  intro call
  have live := Request.isCancelled_of_none (rfl : versionRequest.cancellation = .none)
  have course := Coordinator.execute_course (coordinatorOf (Network.recording script) config)
    versionRequest run
  generalize call.outcome run = outcome at course ⊢
  generalize call.entries run = entries at course
  generalize call.after run = after at course ⊢
  cases course with
  | stopped cancelled => simp [live] at cancelled
  | settled _ kept =>
      have asking := exchange_recording config script run.begun
      rw [store_afterSend, Coordinator.afterSend_world]
      exact .settled asking
  | stoppedBeforeRenewal _ cancelled => simp [live] at cancelled
  | @reused login answered refusal _ newer =>
      -- the store holds the refused session still
      have same : answered.session = run.session :=
        congrArg SessionStore.current (refusal_recording refusal).1
      rw [same] at newer
      exact absurd newer (Nat.lt_irrefl _)
  | @loginFailed login answered cause refusal _ newest failed =>
      obtain ⟨store_eq, message, taken, refuses, world_eq⟩ := refusal_recording refusal
      obtain ⟨guarded, rfl⟩ := login_of_guarded refusal.guarded
      have loggingIn := logIn_recording config script answered.world
      simp only [failed, world_eq] at loggingIn
      rw [Coordinator.afterLogin_store, Coordinator.afterLogin_world, store_eq]
      exact .loginFailed guarded taken refuses loggingIn
  | stoppedBeforeReplay _ _ _ _ _ cancelled => simp [live] at cancelled
  | @replayed login answered fresh granted refusal _ newest succeeded fresh_eq _ =>
      obtain ⟨store_eq, message, taken, refuses, world_eq⟩ := refusal_recording refusal
      obtain ⟨guarded, rfl⟩ := login_of_guarded refusal.guarded
      have loggingIn := logIn_recording config script answered.world
      simp only [succeeded, world_eq] at loggingIn
      have asking := exchange_recording config script fresh
      rw [store_afterSend, Coordinator.afterSend_world, fresh_eq, Coordinator.renewed_store,
        store_eq]
      rw [fresh_eq, Coordinator.renewed_world] at asking
      exact .renewed guarded taken refuses loggingIn asking

/-! ### A whole opening -/

section

variable {config : ClientConfig} {script : Nat → Delivery}

/-- An opening on its way: the messages sent so far, and the store by then. -/
inductive Underway (config : ClientConfig) (script : Nat → Delivery) :
    List Message → SessionStore → Prop where
  | start : Underway config script [] .empty
  | loggedIn {sent : List Message} {store : SessionStore} {message : Message}
      {tokens : SessionTokens} (underway : Underway config script sent store)
      (due : (openingSteps config.authMode)[sent.length]? = some .login)
      (taken : OpeningStep.login.TakenBy config message)
      (grants : (script sent.length).Grants tokens) :
      Underway config script (sent ++ [message]) (store.replace (.ofTokens tokens config.endpoint))
  | refused {sent : List Message} {store : SessionStore} {message : Message}
      (underway : Underway config script sent store)
      (due : (openingSteps config.authMode)[sent.length]? = some .query)
      (renewable : (openingSteps config.authMode)[sent.length + 1]? = some .login)
      (taken : OpeningStep.query.TakenBy config message)
      (refuses : (script sent.length).RefusesSession) :
      Underway config script (sent ++ [message]) store

/-- How an opening ends: before its next step, with a login that fails, or with the answer to a
query. -/
inductive Opening (config : ClientConfig) (script : Nat → Delivery) :
    Except ClientError ApiVersion → List Message → SessionStore → Prop where
  | stopped {sent : List Message} {store : SessionStore}
      (underway : Underway config script sent store) (error : ClientError) :
      Opening config script (.error error) sent store
  | loginFailed {sent : List Message} {store : SessionStore} {message : Message}
      {cause : ClientError} (underway : Underway config script sent store)
      (due : (openingSteps config.authMode)[sent.length]? = some .login)
      (taken : OpeningStep.login.TakenBy config message)
      (fails : GrantsNothing config message (script sent.length) cause) :
      Opening config script
        (.error (if sent.length = 0 then cause else .reauthenticationFailed cause))
        (sent ++ [message]) store
  | answered {sent : List Message} {store : SessionStore} {message : Message}
      {outcome : Except ClientError ApiVersion} (underway : Underway config script sent store)
      (due : (openingSteps config.authMode)[sent.length]? = some .query)
      (taken : OpeningStep.query.TakenBy config message)
      (reports : ∀ version, outcome = .ok version →
        (script sent.length).Reports version ∧ ApiVersion.leastMajor ≤ version.major) :
      Opening config script outcome (sent ++ [message]) store

/-- The version that an answer to the query gives. -/
def versionIn (reply : Reply) : Except ClientError ApiVersion := do
  let latest ← reply.decode ApiVersion.reportReader
  ApiVersion.ofReport latest.join

/-- A version that a report gives was read from it: what stands in for a missing one is not
supported. -/
theorem supported_of_ofReport {latest : Option String} {version : ApiVersion}
    (given : ApiVersion.ofReport latest = .ok version) :
    (∃ text, latest = some text ∧ ApiVersion.parse? text = some version) ∧
      ApiVersion.leastMajor ≤ version.major := by
  cases ApiVersion.ofReport_eq_iff.mp given with
  | supported denotes enough =>
      exact ⟨⟨_, rfl, ApiVersion.parse?_eq_some.mpr denotes⟩, enough⟩

theorem reports_of_versionIn {reply : Reply} {version : ApiVersion}
    (success : Http.isSuccess reply.status = true) (given : versionIn reply = .ok version) :
    (Delivery.answered reply.status reply.headers reply.body).Reports version ∧
      ApiVersion.leastMajor ≤ version.major := by
  rw [versionIn] at given
  obtain ⟨latest, decoded, reported⟩ := bind_eq_ok.mp given
  obtain ⟨⟨text, latest_eq, parsed⟩, enough⟩ := supported_of_ofReport reported
  refine ⟨?_, enough⟩
  rw [Reply.decode] at decoded
  split at decoded
  next => cases decoded; cases latest_eq
  next =>
    split at decoded
    next value read =>
      cases decoded
      have value_eq : value = some text := latest_eq
      rw [value_eq] at read
      exact .reported success read parsed
    next => cases decoded

theorem opening_of_asking {sent sent' : List Message} {store : SessionStore}
    {outcome : Except ClientError Reply} (underway : Underway config script sent store)
    (due : (openingSteps config.authMode)[sent.length]? = some .query)
    (asking : Asking config script sent outcome sent') :
    Opening config script (outcome.bind versionIn) sent' store := by
  cases asking with
  | unsent kept => exact .stopped underway _
  | sent taken answers =>
      refine .answered underway due taken fun version given => ?_
      obtain ⟨reply, ok, given⟩ := bind_eq_ok.mp given
      obtain ⟨delivered, success⟩ := answers.succeeds reply ok
      rw [delivered]
      exact reports_of_versionIn success given

theorem opening_of_discovery {sent sent' : List Message} {store store' : SessionStore}
    {outcome : Except ClientError Reply} (underway : Underway config script sent store)
    (due : (openingSteps config.authMode)[sent.length]? = some .query) (first : sent.length ≤ 1)
    (discovery : Discovery config script sent store outcome sent' store') :
    Opening config script (outcome.bind versionIn) sent' store' := by
  -- a session is refused only after the first login
  have renewable (guarded : config.authMode = .session) : sent.length = 1 := by
    have turns := query_due.mp due
    simp only [guarded, reduceCtorEq, false_and, false_or, true_and] at turns
    omega
  cases discovery with
  | settled asking => exact opening_of_asking underway due asking
  | @loginFailed message cause _ guarded taken refuses loggingIn =>
      have second := renewable guarded
      have next : (openingSteps config.authMode)[sent.length + 1]? = some .login := by
        rw [guarded, second]
        rfl
      have again := underway.refused due next taken refuses
      cases loggingIn with
      | unsent => exact .stopped again _
      | failed taken' fails =>
          have opening := Opening.loginFailed again (by simpa using next) taken' fails
          rwa [if_neg (by simp)] at opening
  | @renewed message session _ middle _ guarded taken refuses loggingIn asking =>
      have second := renewable guarded
      have next : (openingSteps config.authMode)[sent.length + 1]? = some .login := by
        rw [guarded, second]
        rfl
      have last : (openingSteps config.authMode)[sent.length + 2]? = some .query := by
        rw [guarded, second]
        rfl
      have again := underway.refused due next taken refuses
      cases loggingIn with
      | granted taken' grants =>
          have renewed := again.loggedIn (by simpa using next) taken' grants
          exact opening_of_asking renewed (by simpa using last) asking

theorem perform_discoverVersion {World : Type} (coordinator : Coordinator World)
    (run : Run World) :
    coordinator.discoverVersion.perform run =
      (((coordinator.execute versionRequest).outcome run).bind versionIn,
        (coordinator.execute versionRequest).after run) := by
  have request_eq : Request.get ApiVersion.latestPath = versionRequest := rfl
  rw [Coordinator.discoverVersion, Call.perform_bind, request_eq, Call.outcome, Call.after]
  generalize (coordinator.execute versionRequest).perform run = ended
  obtain ⟨outcome, after⟩ := ended
  cases outcome with
  | error error => rfl
  | ok reply =>
      simp only [Call.perform_bind, Call.perform_liftM]
      have version_eq : (Except.ok reply : Except ClientError Reply).bind versionIn =
        versionIn reply := rfl
      rw [version_eq, versionIn]
      cases reply.decode ApiVersion.reportReader <;> rfl

theorem discovery_opening {run : Run (Traffic (List Message))}
    (underway : Underway config script run.world.world run.store)
    (due : (openingSteps config.authMode)[run.world.world.length]? = some .query)
    (first : run.world.world.length ≤ 1) :
    let ended := (coordinatorOf (Network.recording script) config).discoverVersion.perform run
    Opening config script ended.1 ended.2.world.world ended.2.store := by
  have discovery := execute_recording config script run
  simp only [perform_discoverVersion] at discovery ⊢
  exact opening_of_discovery underway due first discovery

theorem perform_discard {World α : Type} (call : Call World α) (run : Run World) :
    Call.perform (discard call) run =
      match call.perform run with
      | (.ok _, after) => (.ok (), after)
      | (.error error, after) => (.error error, after) := by
  have discard_eq : discard call = call >>= fun _ => pure () := rfl
  rw [discard_eq, Call.perform_bind]
  rfl

theorem client_opening (run : Run (Traffic (List Message))) (settings : ClientSettings)
    (underway : Underway config script run.world.world run.store)
    (due : (openingSteps config.authMode)[run.world.world.length]? = some .query)
    (first : run.world.world.length ≤ 1) :
    let coordinator := coordinatorOf (Network.recording script) config
    let ended := Call.perform (do
      let version ← coordinator.discoverVersion
      return ({ coordinator, settings, version } : Client (Traffic (List Message)))) run
    Opening config script (ended.1.map Client.version) ended.2.world.world ended.2.store := by
  have opening := discovery_opening underway due first
  simp only [Call.perform_bind] at opening ⊢
  generalize (coordinatorOf (Network.recording script) config).discoverVersion.perform run =
    ended at opening ⊢
  obtain ⟨outcome | version, after⟩ := ended
  · exact opening
  · exact opening

theorem authenticate_of_session (mode : config.authMode = .session) :
    (coordinatorOf (Network.recording script) config).authenticate =
      Coordinator.logIn ((connectionOf config).logIn (Network.recording script) config.username
        config.password) := by
  rw [Coordinator.authenticate, coordinatorOf, mode]

/-- An opening that uses sessions, from its first login on. -/
theorem session_opening (settings : ClientSettings) (mode : config.authMode = .session) :
    let coordinator := coordinatorOf (Network.recording script) config
    let ended := Call.perform (do
      discard coordinator.authenticate
      let version ← coordinator.discoverVersion
      return ({ coordinator, settings, version } : Client (Traffic (List Message))))
        (.start (.start []))
    Opening config script (ended.1.map Client.version) ended.2.world.world ended.2.store := by
  have login : (openingSteps config.authMode)[0]? = some .login := by rw [mode]; rfl
  have query : (openingSteps config.authMode)[1]? = some .query := by rw [mode]; rfl
  have loggingIn := logIn_recording config script (.start [])
  simp only [Call.perform_bind _ _ (Run.start _), perform_discard,
    authenticate_of_session mode, Coordinator.perform_logIn] at loggingIn ⊢
  generalize (connectionOf config).logIn (Network.recording script) config.username
    config.password = logIn at loggingIn ⊢
  have start_world : (Run.start (Traffic.start ([] : List Message))).world = .start [] := rfl
  have start_store : (Run.start (Traffic.start ([] : List Message))).store = .empty := rfl
  have sent_none : (Traffic.start ([] : List Message)).world = [] := rfl
  rw [sent_none] at loggingIn
  rw [start_world]
  generalize ended : (logIn (.start [])).outcome = outcome at loggingIn ⊢
  generalize sent_eq : (logIn (.start [])).world.world = sent at loggingIn
  cases loggingIn with
  | unsent error =>
      simp only [Coordinator.afterLogin_world, Coordinator.afterLogin_store]
      rw [start_world, start_store, sent_eq]
      exact .stopped .start error
  | failed taken fails =>
      simp only [Coordinator.afterLogin_world, Coordinator.afterLogin_store]
      rw [start_world, start_store, sent_eq]
      exact .loginFailed .start login taken fails
  | @granted message tokens taken grants =>
      have underway := Underway.start.loggedIn login taken grants
      simp only
      generalize settled : Coordinator.renewed logIn (.ofTokens tokens config.endpoint)
        (.start (.start [])) = run
      have world_eq : run.world.world = [message] := by
        rw [← settled, Coordinator.renewed_world, start_world, sent_eq]
        rfl
      have store_eq : run.store =
          SessionStore.empty.replace (.ofTokens tokens config.endpoint) := by
        rw [← settled, Coordinator.renewed_store, start_store]
      rw [List.nil_append, ← world_eq, ← store_eq] at underway
      refine client_opening run settings underway ?_ ?_
      · rw [world_eq]
        exact query
      · rw [world_eq]
        exact Nat.le_refl 1

/-- Setting up a client is one opening, whatever the cluster answers. -/
theorem connect_opening (config : ClientConfig) (script : Nat → Delivery) (files : Files) :
    let ended := (connect files (Network.recording script) config).perform (.start (.start []))
    Opening config script (ended.1.map Client.version) ended.2.world.world ended.2.store := by
  simp only [connect, Call.perform_bind, Call.perform_liftM]
  cases validate config with
  | error error => exact .stopped .start error
  | ok =>
      cases setUp files config.tls with
      | error error => exact .stopped .start error
      | ok =>
          cases mode : config.authMode with
          | basic =>
              have direct : (coordinatorOf (Network.recording script) config).isGuarded =
                  false := by
                simp [Coordinator.isGuarded, coordinatorOf, mode]
              simp only [direct, Bool.false_eq_true, if_false]
              have query : (openingSteps config.authMode)[0]? = some .query := by rw [mode]; rfl
              exact client_opening (.start (.start [])) (.ofConfig config) .start query
                (Nat.zero_le 1)
          | session =>
              have guarded : (coordinatorOf (Network.recording script) config).isGuarded =
                  true := by
                simp [Coordinator.isGuarded, coordinatorOf, mode]
              simp only [guarded, if_true]
              exact session_opening (.ofConfig config) mode

/-! ### What an opening keeps -/

theorem Delivery.Grants.sessionId_ne {delivery : Delivery} {tokens : SessionTokens}
    (grants : delivery.Grants tokens) : tokens.sessionId ≠ "" := by
  obtain @⟨headers, _, tokens, found⟩ := grants
  have first := (SessionTokens.ofCookies?_eq_some.mp found).1
  exact (SessionTokens.of_firstValue? first).2

theorem Delivery.Grants.excludes {delivery : Delivery} {tokens : SessionTokens} {message : Message}
    {cause : ClientError} (grants : delivery.Grants tokens) :
    ¬ GrantsNothing config message delivery cause := by
  intro fails
  cases grants with
  | granted found =>
      cases fails with
      | noCookie _ missing => rw [found] at missing; cases missing
      | unexpected _ _ notGranted => exact notGranted rfl

theorem GrantsNothing.cause_eq {delivery : Delivery} {message : Message}
    {cause cause' : ClientError} (fails : GrantsNothing config message delivery cause)
    (fails' : GrantsNothing config message delivery cause') : cause = cause' := by
  cases fails with
  | unexpected _ _ notGranted notRefused =>
      cases fails' with
      | unauthorized => exact absurd rfl notRefused
      | noCookie => exact absurd rfl notGranted
      | unexpected => rfl
  | unauthorized =>
      cases fails' with
      | unauthorized => rfl
      | unexpected _ _ _ notRefused => exact absurd rfl notRefused
  | noCookie =>
      cases fails' with
      | noCookie => rfl
      | unexpected _ _ notGranted => exact absurd rfl notGranted
  | unreachable | broken | silent | abandoned => cases fails'; rfl

/-- The steps that messages take, and the messages, go on in step. -/
theorem taken_append {steps : List OpeningStep} {sent : List Message} {message : Message}
    {step : OpeningStep}
    (taken : List.Forall₂ (fun step message => step.TakenBy config message)
      (steps.take sent.length) sent)
    (due : steps[sent.length]? = some step) (next : step.TakenBy config message) :
    List.Forall₂ (fun step message => step.TakenBy config message)
      (steps.take (sent ++ [message]).length) (sent ++ [message]) := by
  rw [List.length_append, List.length_singleton, List.take_add_one, due]
  exact List.rel_append taken (.cons next .nil)

namespace Underway

variable {sent : List Message} {store : SessionStore} (underway : Underway config script sent store)

include underway

theorem taken : List.Forall₂ (fun step message => step.TakenBy config message)
    ((openingSteps config.authMode).take sent.length) sent := by
  induction underway with
  | start => exact .nil
  | loggedIn _ due taken _ before => exact taken_append before due taken
  | refused _ due _ taken _ before => exact taken_append before due taken

theorem generation : store.current.generation =
    ((openingSteps config.authMode).take sent.length).count .login := by
  induction underway with
  | start => rfl
  | loggedIn _ due _ _ before =>
      rw [SessionStore.generation_replace, before, List.length_append, List.length_singleton,
        List.take_add_one, due, List.count_append]
      rfl
  | refused _ due _ _ _ before =>
      rw [before, List.length_append, List.length_singleton, List.take_add_one, due,
        List.count_append]
      rfl

/-- The steps after the first query are due to an answer that refuses the session. -/
theorem refusal (renewed : 1 < sent.length) : (script 1).RefusesSession := by
  induction underway with
  | start => cases renewed
  | @loggedIn sent _ _ _ _ due _ _ before =>
      have turns := (login_due.mp due).2
      have appended : 1 < sent.length + 1 := by simpa using renewed
      exact before (by omega)
  | @refused sent _ _ _ due renewable _ refuses _ =>
      have turns := query_due.mp due
      have turns' := login_due.mp renewable
      have second : sent.length = 1 := by omega
      rwa [second] at refuses

theorem granted {turn : Nat} (earlier : turn < sent.length)
    (due : (openingSteps config.authMode)[turn]? = some .login) :
    ∃ tokens, (script turn).Grants tokens := by
  induction underway with
  | start => cases earlier
  | @loggedIn sent _ _ tokens _ _ _ grants before =>
      rcases Nat.lt_succ_iff_lt_or_eq.mp (by simpa using earlier) with earlier | now
      · exact before earlier
      · rw [now]
        exact ⟨tokens, grants⟩
  | @refused sent _ _ _ query _ _ _ before =>
      rcases Nat.lt_succ_iff_lt_or_eq.mp (by simpa using earlier) with earlier | now
      · exact before earlier
      · rw [now, query] at due
        cases due

/-- A query that uses a session comes right after the login that granted it. -/
theorem held (mode : config.authMode = .session)
    (due : (openingSteps config.authMode)[sent.length]? = some .query) :
    ∃ tokens, (script (sent.length - 1)).Grants tokens ∧
      store.current = { Session.ofTokens tokens config.endpoint with
        generation := ((openingSteps config.authMode).take sent.length).count .login } := by
  have generation_eq := underway.generation
  cases underway with
  | start =>
      rw [mode] at due
      cases due
  | @loggedIn sent store message tokens _ _ _ grants =>
      have last : (sent ++ [message]).length - 1 = sent.length := by simp
      rw [last, ← generation_eq]
      exact ⟨tokens, grants, rfl⟩
  | @refused sent _ message _ _ renewable =>
      rw [List.length_append, List.length_singleton, renewable] at due
      cases due

end Underway

namespace Opening

variable {outcome : Except ClientError ApiVersion} {sent : List Message} {store : SessionStore}
  (opening : Opening config script outcome sent store)

include opening

theorem taken : List.Forall₂ (fun step message => step.TakenBy config message)
    ((openingSteps config.authMode).take sent.length) sent := by
  cases opening with
  | stopped underway => exact underway.taken
  | loginFailed underway due taken => exact taken_append underway.taken due taken
  | answered underway due taken => exact taken_append underway.taken due taken

theorem refusal (renewed : 2 < sent.length) : (script 1).RefusesSession := by
  cases opening with
  | stopped underway => exact underway.refusal (Nat.lt_of_succ_lt renewed)
  | loginFailed underway =>
      rw [List.length_append] at renewed
      exact underway.refusal (Nat.lt_of_succ_lt_succ renewed)
  | answered underway =>
      rw [List.length_append] at renewed
      exact underway.refusal (Nat.lt_of_succ_lt_succ renewed)

/-- A login that fails is the last step, and the outcome is its cause. -/
theorem failure {turn : Nat} {message : Message} {cause : ClientError}
    (login : (openingSteps config.authMode)[turn]? = some .login)
    (message_at : sent[turn]? = some message)
    (fails : GrantsNothing config message (script turn) cause) :
    turn + 1 = sent.length ∧
      outcome = .error (if turn = 0 then cause else .reauthenticationFailed cause) := by
  have within := (List.getElem?_eq_some_iff.mp message_at).1
  -- the earlier logins granted tokens
  have latest {sent : List Message} {store : SessionStore}
      (underway : Underway config script sent store) : ¬ turn < sent.length := by
    intro earlier
    obtain ⟨tokens, grants⟩ := underway.granted earlier login
    exact grants.excludes fails
  cases opening with
  | stopped underway => exact absurd within (latest underway)
  | @loginFailed sent _ last _ underway _ _ fails' =>
      have last_turn : turn = sent.length := by
        have late := latest underway
        rw [List.length_append, List.length_singleton] at within
        omega
      subst last_turn
      rw [List.getElem?_concat_length, Option.some.injEq] at message_at
      subst message_at
      rw [fails.cause_eq fails']
      exact ⟨by simp, rfl⟩
  | @answered sent _ _ _ underway query =>
      have last_turn : turn = sent.length := by
        have late := latest underway
        rw [List.length_append, List.length_singleton] at within
        omega
      rw [last_turn, query] at login
      cases login

/-- Openings that succeed end with a query. -/
theorem success {version : ApiVersion} (given : outcome = .ok version) :
    ((openingSteps config.authMode).take sent.length).getLast? = some .query ∧
      (script (sent.length - 1)).Reports version ∧ ApiVersion.leastMajor ≤ version.major ∧
      (config.authMode = .session → ∃ tokens, (script (sent.length - 2)).Grants tokens ∧
        store.current = { Session.ofTokens tokens config.endpoint with
          generation := ((openingSteps config.authMode).take sent.length).count .login }) := by
  cases opening with
  | stopped => cases given
  | loginFailed => cases given
  | @answered sent _ _ _ underway query _ reports =>
      obtain ⟨reported, enough⟩ := reports version given
      rw [List.length_append, List.length_singleton, List.take_add_one, query]
      refine ⟨by simp, reported, enough, fun mode => ?_⟩
      obtain ⟨tokens, grants, current_eq⟩ := underway.held mode query
      refine ⟨tokens, grants, ?_⟩
      rw [current_eq, List.count_append]
      rfl

end Opening

/-- A client is set up in turns: a login if it uses sessions, a query, and both once more at most,
if the answer to the first query refuses the session. The first login that fails is the last
message, and its cause is why there is no client. A client is of a supported version that the last
answer reports, and holds what the last login granted, numbered by the logins. -/
theorem connect_in_turns (config : ClientConfig) (script : Nat → Delivery) (files : Files) :
    let ended := (connect files (Network.recording script) config).perform (.start (.start []))
    let sent := ended.2.world.world
    let steps := (openingSteps config.authMode).take sent.length
    List.Forall₂ (fun step message => step.TakenBy config message) steps sent ∧
      (2 < sent.length → (script 1).RefusesSession) ∧
      (∀ (turn : Nat) (message : Message) (cause : ClientError),
        (openingSteps config.authMode)[turn]? = some .login → sent[turn]? = some message →
          GrantsNothing config message (script turn) cause → turn + 1 = sent.length ∧
            ended.1 = .error (if turn = 0 then cause else .reauthenticationFailed cause)) ∧
      ∀ client, ended.1 = .ok client →
        steps.getLast? = some .query ∧
          (script (sent.length - 1)).Reports client.version ∧ 3 ≤ client.version.major ∧
          (config.authMode = .session → ∃ tokens, (script (sent.length - 2)).Grants tokens ∧
            tokens.sessionId ≠ "" ∧
            ended.2.session = ⟨"isisessid=" ++ tokens.sessionId, tokens.csrfToken.getD "",
              config.endpoint, steps.count .login⟩) := by
  intro ended sent steps
  have opening := connect_opening config script files
  refine ⟨opening.taken, opening.refusal, ?_, ?_⟩
  · intro turn message cause login message_at fails
    obtain ⟨last, failed⟩ := opening.failure login message_at fails
    refine ⟨last, ?_⟩
    change ended.1.map Client.version = _ at failed
    cases outcome_eq : ended.1 with
    | error error =>
        rw [outcome_eq] at failed
        cases failed
        rfl
    | ok client =>
        rw [outcome_eq] at failed
        cases failed
  · intro client connected
    have given : ended.1.map Client.version = .ok client.version := by
      rw [connected]
      rfl
    obtain ⟨asked, reports, enough, holds⟩ := opening.success given
    refine ⟨asked, reports, enough, fun mode => ?_⟩
    obtain ⟨tokens, grants, current_eq⟩ := holds mode
    exact ⟨tokens, grants, grants.sessionId_ne, current_eq⟩

end

/-- A cluster that refuses the session of the first login and takes that of the second. -/
def refusingFirst : Nat → Delivery
  | 0 => .answered 201 ⟨[(setCookieName, [Bytes.ofString "isisessid=S1; path=/"])]⟩ []
  | 1 => .answered 401 .empty []
  | 2 => .answered 201 ⟨[(setCookieName,
      [Bytes.ofString "isisessid=S2", Bytes.ofString "isicsrf=C"])]⟩ []
  | _ => .answered 200 .empty (Bytes.ofString "\x7b\"latest\": \"16.2\"\x7d")

theorem connect_in_turns_refusingFirst :
    let config := { ClientConfig.new "http://[::1]:8080" "admin" "secret" with
      authMode := .session }
    let ended := (connect .empty (Network.recording refusingFirst)
      config).perform (.start (.start []))
    ended.2.world.world.map Message.method = ["POST", "GET", "POST", "GET"] ∧
      (refusingFirst 1).RefusesSession ∧
      ∃ client, ended.1 = .ok client ∧ client.version = ⟨16, 2⟩ ∧
        ended.2.session = ⟨"isisessid=S2", "C", "http://[::1]:8080", 2⟩ := by
  intro config ended
  have inTurns := connect_in_turns config refusingFirst .empty
  obtain ⟨methods, version, session⟩ :
      ended.2.world.world.map Message.method = ["POST", "GET", "POST", "GET"] ∧
        ended.1.map Client.version = .ok ⟨16, 2⟩ ∧
        ended.2.session = ⟨"isisessid=S2", "C", "http://[::1]:8080", 2⟩ := by
    decide +kernel
  have length_eq : ended.2.world.world.length = 4 := by
    simpa using congrArg List.length methods
  refine ⟨methods, inTurns.2.1 (by rw [length_eq]; decide), ?_⟩
  cases connected : ended.1 with
  | error error => rw [connected] at version; cases version
  | ok client =>
      rw [connected] at version
      exact ⟨client, rfl, Except.ok.inj version, session⟩

end ClusterRest.Transport
