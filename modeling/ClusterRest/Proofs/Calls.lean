import ClusterRest.Proofs.Journal

/-!
Calls as functions of a run: what each step of a call gives back and leaves behind, and the courses
that a whole call can take.
-/

namespace ClusterRest

namespace Run

variable {World : Type}

@[simp] theorem begun_session (run : Run World) : run.begun.session = run.session := rfl

@[simp] theorem begun_journal (run : Run World) : run.begun.journal = run.journal := rfl

@[simp] theorem note_world (run : Run World) (entry : Entry) :
    (run.note entry).world = run.world := rfl

theorem fire_eq (run : Run World) (fires : Bool) :
    run.fire fires = { run with
      fired := run.fired || fires
      journal := run.journal ++ if fires then [.fired] else [] } := by
  cases fires <;> simp [fire, note]

theorem foldl_setSession (run : Run World) (writes : List Session) :
    writes.foldl setSession run = { run with
      store := run.store.replaceAll writes
      journal := run.journal ++ writes.map .sessionSet } := by
  induction writes generalizing run with
  | nil => simp
  | cons given rest ih =>
      rw [List.foldl_cons, ih]
      simp [setSession, storeSession, note]

theorem afterExchange_eq (run : Run World) (exchange : Exchange World) :
    run.afterExchange exchange =
      ⟨run.store.replaceAll exchange.writes, run.fired || exchange.fires,
        run.journal ++ exchange.entries, exchange.world⟩ := by
  simp only [afterExchange, foldl_setSession, fire_eq, Exchange.entries, List.append_assoc]

theorem afterLogin_eq (run : Run World) (login : Login World) :
    run.afterLogin login =
      ⟨run.store, run.fired || login.fires, run.journal ++ login.entries, login.world⟩ := by
  simp only [afterLogin, fire_eq, Login.entries]
  cases login.outcome with
  | ok granted => simp [note]
  | error cause => simp

end Run

namespace Request

variable {request : Request}

theorem isCancelled_of_none (token : request.cancellation = .none) (fired : Bool) :
    request.isCancelled fired = false := by
  simp only [isCancelled, token]

theorem isCancelled_of_live (token : request.cancellation = .live) (fired : Bool) :
    request.isCancelled fired = fired := by
  simp only [isCancelled, token]

theorem isCancelled_of_fired (token : request.cancellation = .fired) (fired : Bool) :
    request.isCancelled fired = true := by
  simp only [isCancelled, token]

end Request

namespace Call

variable {World α β : Type}

/-- The outcome of a call in a run, and the run after it. -/
def perform (call : Call World α) (run : Run World) : Except ClientError α × Run World :=
  call.run.run run

def outcome (call : Call World α) (run : Run World) : Except ClientError α := (call.perform run).1

def after (call : Call World α) (run : Run World) : Run World := (call.perform run).2

/-- What a call adds to the journal. -/
def entries (call : Call World α) (run : Run World) : List Entry :=
  (call.after run).journal.drop run.journal.length

@[simp] theorem perform_throw (error : ClientError) (run : Run World) :
    Call.perform (throw error : Call World α) run = (.error error, run) := rfl

@[simp] theorem perform_get (run : Run World) :
    Call.perform get run = (.ok run, run) := rfl

@[simp] theorem perform_modify (change : Run World → Run World) (run : Run World) :
    Call.perform (modify change) run = (.ok (), change run) := rfl

@[simp] theorem perform_liftM (outcome : Except ClientError α) (run : Run World) :
    Call.perform (liftM outcome) run = (outcome, run) := rfl

theorem perform_bind (call : Call World α) (next : α → Call World β) (run : Run World) :
    Call.perform (call >>= next) run =
      match call.perform run with
      | (.ok value, after) => (next value).perform after
      | (.error error, after) => (.error error, after) := by
  simp only [perform, ExceptT.run_bind, StateT.run_bind]
  rcases StateT.run (ExceptT.run call) run with ⟨value | error, after⟩ <;> rfl

theorem perform_tryCatch (call : Call World α) (handler : ClientError → Call World α)
    (run : Run World) :
    Call.perform (tryCatch call handler) run =
      match call.perform run with
      | (.ok value, after) => (.ok value, after)
      | (.error error, after) => (handler error).perform after := by
  simp only [perform, ExceptT.run_tryCatch, StateT.run_bind]
  rcases StateT.run (ExceptT.run call) run with ⟨value | error, after⟩ <;> rfl

end Call

namespace Coordinator

variable {World : Type}

/-- What comes back when a request goes out with the session that a run holds. -/
def exchange (coordinator : Coordinator World) (request : Request) (run : Run World) :
    Exchange World :=
  coordinator.dispatch run.world request run.session

/-- The run after that exchange. -/
def afterSend (coordinator : Coordinator World) (request : Request) (run : Run World) :
    Run World :=
  (run.note (.dispatched request run.session)).afterExchange (coordinator.exchange request run)

/-- The run after a login came back; a session that it grants is not stored yet. -/
def afterLogin (login : World → Login World) (run : Run World) : Run World :=
  (run.note .loggingIn).afterLogin (login run.world)

/-- The run in which a granted session is stored. -/
def renewed (login : World → Login World) (granted : Session) (run : Run World) : Run World :=
  (afterLogin login run).storeSession granted

section

variable (coordinator : Coordinator World) (request : Request) (login : World → Login World)
  (granted : Session) (run : Run World)

@[simp] theorem afterSend_store : (coordinator.afterSend request run).store =
    run.store.replaceAll (coordinator.exchange request run).writes := by
  rw [afterSend, Run.afterExchange_eq]
  rfl

@[simp] theorem afterSend_fired : (coordinator.afterSend request run).fired =
    (run.fired || (coordinator.exchange request run).fires) := by
  rw [afterSend, Run.afterExchange_eq]
  rfl

@[simp] theorem afterSend_journal : (coordinator.afterSend request run).journal = run.journal ++
    .dispatched request run.session :: (coordinator.exchange request run).entries := by
  simp [afterSend, Run.afterExchange_eq, Run.note]

@[simp] theorem afterSend_world : (coordinator.afterSend request run).world =
    (coordinator.exchange request run).world := by
  rw [afterSend, Run.afterExchange_eq]

@[simp] theorem afterLogin_store : (afterLogin login run).store = run.store := by
  rw [afterLogin, Run.afterLogin_eq]
  rfl

@[simp] theorem afterLogin_fired :
    (afterLogin login run).fired = (run.fired || (login run.world).fires) := by
  rw [afterLogin, Run.afterLogin_eq]
  rfl

@[simp] theorem afterLogin_journal : (afterLogin login run).journal =
    run.journal ++ .loggingIn :: (login run.world).entries := by
  simp [afterLogin, Run.afterLogin_eq, Run.note]

@[simp] theorem afterLogin_world : (afterLogin login run).world = (login run.world).world := by
  rw [afterLogin, Run.afterLogin_eq]

@[simp] theorem renewed_store :
    (renewed login granted run).store = run.store.replace granted := by
  simp [renewed, Run.storeSession]

@[simp] theorem renewed_fired :
    (renewed login granted run).fired = (run.fired || (login run.world).fires) :=
  afterLogin_fired login run

@[simp] theorem renewed_journal : (renewed login granted run).journal =
    run.journal ++ .loggingIn :: (login run.world).entries :=
  afterLogin_journal login run

@[simp] theorem renewed_world :
    (renewed login granted run).world = (login run.world).world :=
  afterLogin_world login run

end

theorem perform_checkCancelled (request : Request) (run : Run World) :
    (checkCancelled request).perform run =
      (if request.isCancelled run.fired then .error .cancelled else .ok (), run) := by
  simp only [checkCancelled, Call.perform_bind, Call.perform_get]
  cases request.isCancelled run.fired <;> rfl

theorem perform_send (coordinator : Coordinator World) (request : Request) (run : Run World) :
    (coordinator.send request run.session).perform run =
      ((coordinator.exchange request run).outcome, coordinator.afterSend request run) := rfl

theorem perform_logIn (login : World → Login World) (run : Run World) :
    (logIn login).perform run =
      match (login run.world).outcome with
      | .error cause => (.error cause, afterLogin login run)
      | .ok granted => (.ok (renewed login granted run).session, renewed login granted run) := by
  simp only [logIn, Call.perform_bind, Call.perform_get, Call.perform_modify, Call.perform_liftM,
    Run.note_world]
  cases (login run.world).outcome <;> rfl

theorem perform_renew (login : World → Login World) (stale : Nat) (run : Run World) :
    (renew login stale).perform run =
      if stale < run.session.generation then (.ok run.session, run)
      else (logIn login).perform run := by
  simp only [renew, Call.perform_bind, Call.perform_get]
  split <;> rfl

theorem perform_replay (coordinator : Coordinator World) (login : World → Login World)
    (request : Request) (stale : Nat) (run : Run World) :
    (coordinator.replay login request stale).perform run =
      if request.isCancelled run.fired then (.error .cancelled, run)
      else if stale < run.session.generation then
        ((coordinator.exchange request run).outcome, coordinator.afterSend request run)
      else match (login run.world).outcome with
        | .error cause => (.error (.reauthenticationFailed cause), afterLogin login run)
        | .ok granted =>
          let fresh := renewed login granted run
          if request.isCancelled fresh.fired then (.error .cancelled, fresh)
          else ((coordinator.exchange request fresh).outcome,
            coordinator.afterSend request fresh) := by
  simp only [replay, Call.perform_bind, perform_checkCancelled, Call.perform_tryCatch,
    perform_renew, perform_logIn]
  by_cases cancelled : request.isCancelled run.fired = true
  · simp only [if_pos cancelled]
  · simp only [if_neg cancelled]
    by_cases newer : stale < run.session.generation
    · simp only [if_pos newer, if_neg cancelled, perform_send]
    · simp only [if_neg newer]
      cases (login run.world).outcome with
      | error cause => rfl
      | ok granted =>
          by_cases late : request.isCancelled (renewed login granted run).fired = true
          · simp only [if_pos late]
          · simp only [if_neg late, perform_send]

theorem perform_execute (coordinator : Coordinator World) (request : Request) (run : Run World) :
    (coordinator.execute request).perform run =
      if request.isCancelled false then (.error .cancelled, run.begun)
      else match coordinator.login? with
        | none => ((coordinator.exchange request run.begun).outcome,
            coordinator.afterSend request run.begun)
        | some login =>
          if (coordinator.exchange request run.begun).isRefused then
            (coordinator.replay login request run.session.generation).perform
              (coordinator.afterSend request run.begun)
          else ((coordinator.exchange request run.begun).outcome,
            coordinator.afterSend request run.begun) := by
  simp only [execute, Call.perform_bind, Call.perform_modify, Call.perform_get,
    perform_checkCancelled, Call.perform_tryCatch]
  by_cases cancelled : request.isCancelled false = true
  · have stops : request.isCancelled run.begun.fired = true := cancelled
    simp only [if_pos stops, if_pos cancelled]
  · have goes : ¬ request.isCancelled run.begun.fired = true := cancelled
    simp only [if_neg goes, if_neg cancelled, perform_send]
    cases answer : (coordinator.exchange request run.begun).outcome with
    | ok reply =>
        have kept := Exchange.not_isRefused_of_ok answer
        simp only [if_neg kept]
        cases coordinator.login? <;> rfl
    | error refusal =>
        rw [Exchange.isRefused_of_error answer]
        cases coordinator.login? with
        | none => rfl
        | some login =>
            by_cases refused : refusal.isUnauthorized = true
            · simp only [if_pos refused, Run.begun_session]
            · simp only [if_neg refused, Call.perform_throw]

/-- The session of a request was refused, and there is a login to renew it with. -/
structure Refusal (coordinator : Coordinator World) (request : Request) (run : Run World)
    (login : World → Login World) (answered : Run World) : Prop where
  live : request.isCancelled false = false
  guarded : coordinator.login? = some login
  refused : (coordinator.exchange request run.begun).isRefused = true
  answered_eq : answered = coordinator.afterSend request run.begun

namespace Refusal

variable {coordinator : Coordinator World} {request : Request} {run : Run World}
  {login : World → Login World} {answered : Run World}
  (refusal : Refusal coordinator request run login answered)

include refusal

theorem store_eq :
    answered.store = run.store.replaceAll (coordinator.exchange request run.begun).writes := by
  rw [refusal.answered_eq, afterSend_store]
  rfl

theorem fired_eq : answered.fired = (coordinator.exchange request run.begun).fires := by
  rw [refusal.answered_eq, afterSend_fired]
  exact Bool.false_or _

theorem journal_eq : answered.journal = run.journal ++
    .dispatched request run.session :: (coordinator.exchange request run.begun).entries := by
  rw [refusal.answered_eq, afterSend_journal]
  rfl

theorem world_eq : answered.world = (coordinator.exchange request run.begun).world := by
  rw [refusal.answered_eq, afterSend_world]

end Refusal

/-- The courses that one call can take: its outcome, what it adds to the journal, and the run after
it. -/
inductive Course (coordinator : Coordinator World) (request : Request) (run : Run World) :
    Except ClientError Reply → List Entry → Run World → Prop where
  | stopped (cancelled : request.isCancelled false = true) :
      Course coordinator request run (.error .cancelled) [] run.begun
  | settled (live : request.isCancelled false = false)
      (kept : coordinator.login? = none ∨
        (coordinator.exchange request run.begun).isRefused = false) :
      Course coordinator request run (coordinator.exchange request run.begun).outcome
        (.dispatched request run.session :: (coordinator.exchange request run.begun).entries)
        (coordinator.afterSend request run.begun)
  | stoppedBeforeRenewal {login : World → Login World} {answered : Run World}
      (refusal : Refusal coordinator request run login answered)
      (cancelled : request.isCancelled answered.fired = true) :
      Course coordinator request run (.error .cancelled)
        (.dispatched request run.session :: (coordinator.exchange request run.begun).entries)
        answered
  | reused {login : World → Login World} {answered : Run World}
      (refusal : Refusal coordinator request run login answered)
      (live : request.isCancelled answered.fired = false)
      (newer : run.session.generation < answered.session.generation) :
      Course coordinator request run (coordinator.exchange request answered).outcome
        (.dispatched request run.session :: (coordinator.exchange request run.begun).entries ++
          .dispatched request answered.session ::
            (coordinator.exchange request answered).entries)
        (coordinator.afterSend request answered)
  | loginFailed {login : World → Login World} {answered : Run World} {cause : ClientError}
      (refusal : Refusal coordinator request run login answered)
      (live : request.isCancelled answered.fired = false)
      (newest : answered.session.generation ≤ run.session.generation)
      (failed : (login answered.world).outcome = .error cause) :
      Course coordinator request run (.error (.reauthenticationFailed cause))
        (.dispatched request run.session :: (coordinator.exchange request run.begun).entries ++
          .loggingIn :: (login answered.world).entries)
        (afterLogin login answered)
  | stoppedBeforeReplay {login : World → Login World} {answered fresh : Run World}
      {granted : Session}
      (refusal : Refusal coordinator request run login answered)
      (live : request.isCancelled answered.fired = false)
      (newest : answered.session.generation ≤ run.session.generation)
      (succeeded : (login answered.world).outcome = .ok granted)
      (fresh_eq : fresh = renewed login granted answered)
      (cancelled : request.isCancelled fresh.fired = true) :
      Course coordinator request run (.error .cancelled)
        (.dispatched request run.session :: (coordinator.exchange request run.begun).entries ++
          .loggingIn :: (login answered.world).entries)
        fresh
  | replayed {login : World → Login World} {answered fresh : Run World} {granted : Session}
      (refusal : Refusal coordinator request run login answered)
      (live : request.isCancelled answered.fired = false)
      (newest : answered.session.generation ≤ run.session.generation)
      (succeeded : (login answered.world).outcome = .ok granted)
      (fresh_eq : fresh = renewed login granted answered)
      (stillLive : request.isCancelled fresh.fired = false) :
      Course coordinator request run (coordinator.exchange request fresh).outcome
        (.dispatched request run.session :: (coordinator.exchange request run.begun).entries ++
          .loggingIn :: (login answered.world).entries ++
            .dispatched request fresh.session :: (coordinator.exchange request fresh).entries)
        (coordinator.afterSend request fresh)

section

variable {coordinator : Coordinator World} {request : Request} {run answered : Run World}
  {login : World → Login World} {outcome : Except ClientError Reply} {entries : List Entry}
  {after : Run World}

theorem Refusal.perform_eq (refusal : Refusal coordinator request run login answered) :
    (coordinator.execute request).perform run =
      (coordinator.replay login request run.session.generation).perform answered := by
  rw [perform_execute, if_neg (Bool.eq_false_iff.mp refusal.live), refusal.guarded]
  simp only [if_pos refusal.refused, refusal.answered_eq]

/-- A course tells exactly what the call does. -/
theorem Course.perform_eq (course : Course coordinator request run outcome entries after) :
    (coordinator.execute request).perform run = (outcome, after) := by
  cases course with
  | stopped cancelled => rw [perform_execute, if_pos cancelled]
  | settled live kept =>
      rw [perform_execute, if_neg (Bool.eq_false_iff.mp live)]
      rcases kept with direct | kept
      · rw [direct]
      · cases coordinator.login? with
        | none => rfl
        | some login => exact if_neg (Bool.eq_false_iff.mp kept)
  | stoppedBeforeRenewal refusal cancelled =>
      rw [refusal.perform_eq, perform_replay, if_pos cancelled]
  | reused refusal live newer =>
      rw [refusal.perform_eq, perform_replay, if_neg (Bool.eq_false_iff.mp live), if_pos newer]
  | loginFailed refusal live newest failed =>
      rw [refusal.perform_eq, perform_replay, if_neg (Bool.eq_false_iff.mp live),
        if_neg (Nat.not_lt.mpr newest), failed]
  | stoppedBeforeReplay refusal live newest succeeded fresh_eq cancelled =>
      rw [fresh_eq] at cancelled ⊢
      rw [refusal.perform_eq, perform_replay, if_neg (Bool.eq_false_iff.mp live),
        if_neg (Nat.not_lt.mpr newest), succeeded]
      exact if_pos cancelled
  | replayed refusal live newest succeeded fresh_eq stillLive =>
      rw [fresh_eq] at stillLive ⊢
      rw [refusal.perform_eq, perform_replay, if_neg (Bool.eq_false_iff.mp live),
        if_neg (Nat.not_lt.mpr newest), succeeded]
      exact if_neg (Bool.eq_false_iff.mp stillLive)

theorem Course.journal_eq (course : Course coordinator request run outcome entries after) :
    after.journal = run.journal ++ entries := by
  cases course with
  | stopped _ => exact (List.append_nil _).symm
  | settled _ _ => simp
  | stoppedBeforeRenewal refusal _ => exact refusal.journal_eq
  | reused refusal _ _ => simp [refusal.journal_eq]
  | loginFailed refusal _ _ _ => simp [refusal.journal_eq]
  | stoppedBeforeReplay refusal _ _ _ fresh_eq _ => simp [fresh_eq, refusal.journal_eq]
  | replayed refusal _ _ _ fresh_eq _ => simp [fresh_eq, refusal.journal_eq]

theorem Course.outcome_eq (course : Course coordinator request run outcome entries after) :
    (coordinator.execute request).outcome run = outcome := by
  rw [Call.outcome, course.perform_eq]

theorem Course.after_eq (course : Course coordinator request run outcome entries after) :
    (coordinator.execute request).after run = after := by
  rw [Call.after, course.perform_eq]

theorem Course.entries_eq (course : Course coordinator request run outcome entries after) :
    (coordinator.execute request).entries run = entries := by
  rw [Call.entries, course.after_eq, course.journal_eq, List.drop_left]

/-- Once a session was refused, the call goes on by the token, the store and the login. -/
theorem Refusal.exists_course (refusal : Refusal coordinator request run login answered) :
    ∃ outcome entries after, Course coordinator request run outcome entries after := by
  cases live : request.isCancelled answered.fired with
  | true => exact ⟨_, _, _, .stoppedBeforeRenewal refusal live⟩
  | false =>
      by_cases newer : run.session.generation < answered.session.generation
      · exact ⟨_, _, _, .reused refusal live newer⟩
      have newest : answered.session.generation ≤ run.session.generation := Nat.le_of_not_lt newer
      cases answer : (login answered.world).outcome with
      | error cause => exact ⟨_, _, _, .loginFailed refusal live newest answer⟩
      | ok granted =>
          cases late : request.isCancelled (renewed login granted answered).fired with
          | true => exact ⟨_, _, _, .stoppedBeforeReplay refusal live newest answer rfl late⟩
          | false => exact ⟨_, _, _, .replayed refusal live newest answer rfl late⟩

end

theorem exists_course (coordinator : Coordinator World) (request : Request) (run : Run World) :
    ∃ outcome entries after, Course coordinator request run outcome entries after := by
  cases live : request.isCancelled false with
  | true => exact ⟨_, _, _, .stopped live⟩
  | false =>
      cases guarded : coordinator.login? with
      | none => exact ⟨_, _, _, .settled live (Or.inl guarded)⟩
      | some login =>
          cases refused : (coordinator.exchange request run.begun).isRefused with
          | true => exact Refusal.exists_course ⟨live, guarded, refused, rfl⟩
          | false => exact ⟨_, _, _, .settled live (Or.inr refused)⟩

/-- Every call takes one of the courses. -/
theorem execute_course (coordinator : Coordinator World) (request : Request) (run : Run World) :
    Course coordinator request run ((coordinator.execute request).outcome run)
      ((coordinator.execute request).entries run) ((coordinator.execute request).after run) := by
  obtain ⟨outcome, entries, after, course⟩ := exists_course coordinator request run
  rw [course.outcome_eq, course.entries_eq, course.after_eq]
  exact course

end Coordinator

end ClusterRest
