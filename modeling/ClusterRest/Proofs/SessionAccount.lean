import ClusterRest.Proofs.SessionRenewal

/-!
Sequences of calls: the stored session is told by the sessions that were given, whatever
generations these came with.
-/

namespace ClusterRest

/-- A write as a machine does it, whose generations are 64-bit words; none where the next generation
does not fit. -/
def SessionStore.replaceWord? (store : SessionStore) (given : Session) : Option SessionStore :=
  if store.current.generation + 1 < UInt64.size then some (store.replace given) else none

/-- Words are wide enough as long as the writes can be counted in one. -/
theorem SessionStore.foldlM_replaceWord? (store : SessionStore) (sessions : List Session)
    (bound : store.current.generation + sessions.length < UInt64.size) :
    sessions.foldlM replaceWord? store = some (store.replaceAll sessions) := by
  induction sessions generalizing store with
  | nil => rfl
  | cons given rest ih =>
      rw [List.length_cons] at bound
      have fits : store.current.generation + 1 < UInt64.size := by omega
      have written : store.replaceWord? given = some (store.replace given) := if_pos fits
      rw [List.foldlM_cons, written, replaceAll_cons]
      apply ih
      rw [generation_replace]
      omega

/-- What callers do with a coordinator. -/
inductive Operation where
  | execute (request : Request)
  | authenticate
  | setSession (given : Session)
  deriving DecidableEq, Repr

namespace Run

variable {World : Type}

/-- A run goes on by some entries, and the sessions in these are the ones that were stored. -/
structure Continues (before after : Run World) (added : List Entry) : Prop where
  journal_eq : after.journal = before.journal ++ added
  store_eq : after.store = before.store.replaceAll (written added)

theorem Continues.refl (run : Run World) : Continues run run [] :=
  ⟨(List.append_nil _).symm, rfl⟩

theorem Continues.trans {first second third : Run World} {earlier later : List Entry}
    (one : Continues first second earlier) (two : Continues second third later) :
    Continues first third (earlier ++ later) := by
  constructor
  · rw [two.journal_eq, one.journal_eq, List.append_assoc]
  · rw [two.store_eq, one.store_eq, written_append, SessionStore.replaceAll_append]

end Run

namespace Coordinator

variable {World : Type}

/-- The run after an operation; its outcome goes to the caller. -/
def operate (coordinator : Coordinator World) (run : Run World) : Operation → Run World
  | .execute request => (coordinator.execute request).after run
  | .authenticate => coordinator.authenticate.after run
  | .setSession given => ((setSession given).run run).2

def operateAll (coordinator : Coordinator World) (operations : List Operation) (run : Run World) :
    Run World :=
  operations.foldl coordinator.operate run

theorem Refusal.continues {coordinator : Coordinator World} {request : Request} {run : Run World}
    {login : World → Login World} {answered : Run World}
    (refusal : Refusal coordinator request run login answered) :
    run.Continues answered
      (.dispatched request run.session :: (coordinator.exchange request run.begun).entries) :=
  ⟨refusal.journal_eq, by simp [refusal.store_eq]⟩

theorem afterSend_continues (coordinator : Coordinator World) (request : Request)
    (run : Run World) :
    run.Continues (coordinator.afterSend request run)
      (.dispatched request run.session :: (coordinator.exchange request run).entries) :=
  ⟨afterSend_journal _ _ _, by simp⟩

theorem afterLogin_continues {login : World → Login World} {run : Run World} {cause : ClientError}
    (failed : (login run.world).outcome = .error cause) :
    run.Continues (afterLogin login run) (.loggingIn :: (login run.world).entries) :=
  ⟨afterLogin_journal _ _, by simp [failed, Except.toOption]⟩

theorem renewed_continues {login : World → Login World} {run : Run World} {granted : Session}
    (succeeded : (login run.world).outcome = .ok granted) :
    run.Continues (renewed login granted run) (.loggingIn :: (login run.world).entries) :=
  ⟨renewed_journal _ _ _, by simp [succeeded, Except.toOption]⟩

theorem Course.continues {coordinator : Coordinator World} {request : Request} {run : Run World}
    {outcome : Except ClientError Reply} {entries : List Entry} {after : Run World}
    (course : Course coordinator request run outcome entries after) :
    run.Continues after entries := by
  cases course with
  | stopped _ => exact ⟨(List.append_nil _).symm, rfl⟩
  | settled _ _ =>
      have sent := afterSend_continues coordinator request run.begun
      exact ⟨sent.journal_eq, sent.store_eq⟩
  | stoppedBeforeRenewal refusal _ => exact refusal.continues
  | reused refusal _ _ => exact refusal.continues.trans (afterSend_continues _ _ _)
  | loginFailed refusal _ _ failed => exact refusal.continues.trans (afterLogin_continues failed)
  | stoppedBeforeReplay refusal _ _ succeeded fresh_eq _ =>
      rw [fresh_eq]
      exact refusal.continues.trans (renewed_continues succeeded)
  | replayed refusal _ _ succeeded fresh_eq _ =>
      rw [fresh_eq]
      exact (refusal.continues.trans (renewed_continues succeeded)).trans
        (afterSend_continues _ _ _)

theorem perform_authenticate (coordinator : Coordinator World) (run : Run World) :
    coordinator.authenticate.perform run =
      match coordinator.login? with
      | none => (.ok run.session, run)
      | some login => (logIn login).perform run := by
  rw [authenticate]
  cases coordinator.login? <;> rfl

theorem authenticate_continues (coordinator : Coordinator World) (run : Run World) :
    ∃ added, run.Continues (coordinator.authenticate.after run) added := by
  rw [Call.after, perform_authenticate]
  cases coordinator.login? with
  | none => exact ⟨_, .refl run⟩
  | some login =>
      simp only [perform_logIn]
      cases answer : (login run.world).outcome with
      | error cause => exact ⟨_, afterLogin_continues answer⟩
      | ok granted => exact ⟨_, renewed_continues answer⟩

/-- Every operation stores the sessions that its entries tell of. -/
theorem operate_continues (coordinator : Coordinator World) (run : Run World)
    (operation : Operation) : ∃ added, run.Continues (coordinator.operate run operation) added := by
  cases operation with
  | execute request => exact ⟨_, (execute_course coordinator request run).continues⟩
  | authenticate => exact authenticate_continues coordinator run
  | setSession given => exact ⟨[.sessionSet given], rfl, rfl⟩

theorem operateAll_continues (coordinator : Coordinator World) (operations : List Operation)
    (run : Run World) :
    ∃ added, run.Continues (coordinator.operateAll operations run) added := by
  induction operations generalizing run with
  | nil => exact ⟨[], .refl run⟩
  | cons operation rest ih =>
      obtain ⟨first, one⟩ := operate_continues coordinator run operation
      obtain ⟨later, more⟩ := ih (coordinator.operate run operation)
      exact ⟨first ++ later, one.trans more⟩

end Coordinator

/-! Sessions as they would have come without a generation. -/

def Session.unnumbered (session : Session) : Session := { session with generation := 0 }

@[simp] theorem SessionStore.replace_unnumbered (store : SessionStore) (given : Session) :
    store.replace given.unnumbered = store.replace given := rfl

@[simp] theorem SessionStore.replaceAll_unnumbered (store : SessionStore)
    (sessions : List Session) :
    store.replaceAll (sessions.map Session.unnumbered) = store.replaceAll sessions := by
  simp only [replaceAll, List.foldl_map, replace_unnumbered]

def Entry.unnumbered : Entry → Entry
  | .loggedIn granted => .loggedIn granted.unnumbered
  | .sessionSet given => .sessionSet given.unnumbered
  | .dispatched request session => .dispatched request session
  | .loggingIn => .loggingIn
  | .fired => .fired

def Operation.unnumbered : Operation → Operation
  | .setSession given => .setSession given.unnumbered
  | .execute request => .execute request
  | .authenticate => .authenticate

section

variable {World : Type}

def Exchange.unnumbered (exchange : Exchange World) : Exchange World :=
  { exchange with writes := exchange.writes.map Session.unnumbered }

def Login.unnumbered (login : Login World) : Login World :=
  { login with outcome := login.outcome.map Session.unnumbered }

def Run.unnumbered (run : Run World) : Run World :=
  { run with journal := run.journal.map Entry.unnumbered }

theorem Run.note_unnumbered (run : Run World) (entry : Entry) :
    (run.note entry).unnumbered = run.unnumbered.note entry.unnumbered := by
  simp only [unnumbered, note, List.map_append]
  rfl

/-- The same cluster, with no generation in the sessions that come from it. -/
def Coordinator.unnumbered (coordinator : Coordinator World) : Coordinator World where
  dispatch world request session := (coordinator.dispatch world request session).unnumbered
  login? := coordinator.login?.map fun login world => (login world).unnumbered

theorem Exchange.entries_unnumbered (exchange : Exchange World) :
    exchange.unnumbered.entries = exchange.entries.map Entry.unnumbered := by
  obtain ⟨_, writes, fires, _⟩ := exchange
  have given : (writes.map Session.unnumbered).map Entry.sessionSet =
      (writes.map Entry.sessionSet).map Entry.unnumbered := by
    rw [List.map_map, List.map_map]
    rfl
  cases fires with
  | false => simp only [entries, unnumbered, given, Bool.false_eq_true, if_false, List.append_nil]
  | true => simp only [entries, unnumbered, given, if_true, List.map_append]; rfl

theorem Login.entries_unnumbered (login : Login World) :
    login.unnumbered.entries = login.entries.map Entry.unnumbered := by
  obtain ⟨outcome, fires, _⟩ := login
  cases fires <;> cases outcome <;> rfl

namespace Coordinator

theorem exchange_unnumbered (coordinator : Coordinator World) (request : Request)
    (run : Run World) :
    coordinator.unnumbered.exchange request run.unnumbered =
      (coordinator.exchange request run).unnumbered := rfl

theorem afterSend_unnumbered (coordinator : Coordinator World) (request : Request)
    (run : Run World) :
    coordinator.unnumbered.afterSend request run.unnumbered =
      (coordinator.afterSend request run).unnumbered := by
  rw [afterSend, afterSend, exchange_unnumbered, Run.afterExchange_eq, Run.afterExchange_eq,
    Exchange.entries_unnumbered]
  simp only [Run.unnumbered, Run.note, Exchange.unnumbered, SessionStore.replaceAll_unnumbered,
    List.map_append]
  rfl

theorem afterLogin_unnumbered (login : World → Login World) (run : Run World) :
    afterLogin (fun world => (login world).unnumbered) run.unnumbered =
      (afterLogin login run).unnumbered := by
  rw [afterLogin, afterLogin, Run.afterLogin_eq, Run.afterLogin_eq]
  have entries_eq := (login run.world).entries_unnumbered
  simp only [Run.unnumbered, Run.note, entries_eq, List.map_append, List.append_assoc]
  rfl

theorem renewed_unnumbered (login : World → Login World) (granted : Session) (run : Run World) :
    renewed (fun world => (login world).unnumbered) granted.unnumbered run.unnumbered =
      (renewed login granted run).unnumbered := by
  rw [renewed, renewed, afterLogin_unnumbered]
  rfl

theorem outcome_unnumbered (login : World → Login World) (run : Run World) :
    (login run.unnumbered.world).unnumbered.outcome =
      (login run.world).outcome.map Session.unnumbered := rfl

theorem logIn_unnumbered (login : World → Login World) (run : Run World) :
    (logIn fun world => (login world).unnumbered).perform run.unnumbered =
      Prod.map id Run.unnumbered ((logIn login).perform run) := by
  rw [perform_logIn, perform_logIn, outcome_unnumbered]
  cases (login run.world).outcome with
  | error cause => exact congrArg (Prod.mk _) (afterLogin_unnumbered login run)
  | ok granted =>
      simp only [Except.map, renewed_unnumbered, Prod.map]
      rfl

theorem authenticate_unnumbered (coordinator : Coordinator World) (run : Run World) :
    coordinator.unnumbered.authenticate.perform run.unnumbered =
      Prod.map id Run.unnumbered (coordinator.authenticate.perform run) := by
  rw [perform_authenticate, perform_authenticate, unnumbered]
  cases coordinator.login? with
  | none => rfl
  | some login => exact logIn_unnumbered login run

theorem send_unnumbered (coordinator : Coordinator World) (request : Request) (run : Run World) :
    ((coordinator.unnumbered.exchange request run.unnumbered).outcome,
        coordinator.unnumbered.afterSend request run.unnumbered) =
      Prod.map id Run.unnumbered
        ((coordinator.exchange request run).outcome, coordinator.afterSend request run) := by
  rw [afterSend_unnumbered, exchange_unnumbered]
  rfl

theorem replay_unnumbered (coordinator : Coordinator World) (login : World → Login World)
    (request : Request) (stale : Nat) (run : Run World) :
    (coordinator.unnumbered.replay (fun world => (login world).unnumbered) request stale).perform
        run.unnumbered =
      Prod.map id Run.unnumbered ((coordinator.replay login request stale).perform run) := by
  rw [perform_replay, perform_replay, outcome_unnumbered, afterLogin_unnumbered, send_unnumbered]
  by_cases cancelled : request.isCancelled run.fired = true
  · have stops : request.isCancelled run.unnumbered.fired = true := cancelled
    rw [if_pos cancelled, if_pos stops]
    rfl
  have goes : ¬ request.isCancelled run.unnumbered.fired = true := cancelled
  rw [if_neg cancelled, if_neg goes]
  by_cases newer : stale < run.session.generation
  · have found : stale < run.unnumbered.session.generation := newer
    rw [if_pos newer, if_pos found]
  have missing : ¬ stale < run.unnumbered.session.generation := newer
  rw [if_neg newer, if_neg missing]
  cases (login run.world).outcome with
  | error cause => rfl
  | ok granted =>
      simp only [Except.map, renewed_unnumbered, send_unnumbered]
      by_cases late : request.isCancelled (renewed login granted run).fired = true
      · have stops : request.isCancelled (renewed login granted run).unnumbered.fired = true :=
          late
        rw [if_pos late, if_pos stops]
        rfl
      · have goes : ¬ request.isCancelled (renewed login granted run).unnumbered.fired = true :=
          late
        rw [if_neg late, if_neg goes]

theorem execute_unnumbered (coordinator : Coordinator World) (request : Request)
    (run : Run World) :
    (coordinator.unnumbered.execute request).perform run.unnumbered =
      Prod.map id Run.unnumbered ((coordinator.execute request).perform run) := by
  have begun_eq : run.unnumbered.begun = run.begun.unnumbered := rfl
  rw [perform_execute, perform_execute, begun_eq, send_unnumbered, afterSend_unnumbered]
  by_cases cancelled : request.isCancelled false = true
  · rw [if_pos cancelled, if_pos cancelled]
    rfl
  rw [if_neg cancelled, if_neg cancelled]
  have login_eq : coordinator.unnumbered.login? =
      coordinator.login?.map fun login world => (login world).unnumbered := rfl
  rw [login_eq]
  cases coordinator.login? with
  | none => rfl
  | some login =>
      by_cases refused : (coordinator.exchange request run.begun).isRefused = true
      · have same : (coordinator.unnumbered.exchange request run.begun.unnumbered).isRefused =
            true := refused
        simp only [Option.map_some]
        rw [if_pos refused, if_pos same]
        exact replay_unnumbered coordinator login request _ _
      · have same : ¬ (coordinator.unnumbered.exchange request run.begun.unnumbered).isRefused =
            true := refused
        simp only [Option.map_some]
        rw [if_neg refused, if_neg same]

theorem operate_unnumbered (coordinator : Coordinator World) (run : Run World)
    (operation : Operation) :
    coordinator.unnumbered.operate run.unnumbered operation.unnumbered =
      (coordinator.operate run operation).unnumbered := by
  cases operation with
  | execute request => exact congrArg Prod.snd (execute_unnumbered coordinator request run)
  | authenticate => exact congrArg Prod.snd (authenticate_unnumbered coordinator run)
  | setSession given =>
      have noted := run.note_unnumbered (.sessionSet given)
      change (run.unnumbered.note (.sessionSet given.unnumbered)).storeSession given.unnumbered =
        ((run.note (.sessionSet given)).storeSession given).unnumbered
      rw [Entry.unnumbered] at noted
      rw [← noted]
      rfl

theorem operateAll_unnumbered (coordinator : Coordinator World) (operations : List Operation)
    (run : Run World) :
    coordinator.unnumbered.operateAll (operations.map Operation.unnumbered) run.unnumbered =
      (coordinator.operateAll operations run).unnumbered := by
  induction operations generalizing run with
  | nil => rfl
  | cons operation rest ih =>
      simp only [operateAll, List.map_cons, List.foldl_cons, operate_unnumbered] at ih ⊢
      exact ih _

/-- After any sequence of operations the stored session is the last one that was given, under the
number of all that were given. A further operation without a successful login stores what callers
set and nothing else. The generations that sessions came with leave no trace, and 64 bits are
enough for those that are stored. -/
theorem session_accounts_for_writes (coordinator : Coordinator World)
    (operations : List Operation) (world : World) :
    let run := coordinator.operateAll operations (.start world)
    run.session = { (written run.journal).getLastD .empty with
      generation := (sets run.journal).length + (grants run.journal).length } ∧
    (∀ operation,
      let next := coordinator.operate run operation
      let added := next.journal.drop run.journal.length
      grants added = [] → next.store = run.store.replaceAll (sets added)) ∧
    (∀ (other : Coordinator World) (others : List Operation),
      other.unnumbered = coordinator.unnumbered →
      others.map Operation.unnumbered = operations.map Operation.unnumbered →
      (other.operateAll others (.start world)).store = run.store) ∧
    ((written run.journal).length < UInt64.size →
      (written run.journal).foldlM SessionStore.replaceWord? .empty = some run.store) := by
  intro run
  obtain ⟨entries, account⟩ := operateAll_continues coordinator operations (.start world)
  have journal_eq : run.journal = entries := account.journal_eq
  have store_eq : run.store = SessionStore.empty.replaceAll (written run.journal) := by
    rw [journal_eq]
    exact account.store_eq
  refine ⟨?_, ?_, ?_, ?_⟩
  · rw [← length_written, Run.session, store_eq, SessionStore.current_replaceAll]
    exact congrArg (Session.mk _ _ _) (Nat.zero_add _)
  · intro operation next added none
    obtain ⟨step, continues⟩ := operate_continues coordinator run operation
    have added_eq : added = step := by
      change next.journal.drop run.journal.length = step
      rw [continues.journal_eq, List.drop_left]
    rw [continues.store_eq, ← added_eq, written_of_no_grants none]
  · intro other others same sameOperations
    have relabelled := operateAll_unnumbered other others (.start world)
    rw [same, sameOperations] at relabelled
    have here := operateAll_unnumbered coordinator operations (.start world)
    have same_store := congrArg Run.store (relabelled.symm.trans here)
    exact same_store
  · intro bound
    have fits : SessionStore.empty.current.generation + (written run.journal).length <
        UInt64.size := by
      rw [show SessionStore.empty.current.generation = 0 from rfl, Nat.zero_add]
      exact bound
    rw [SessionStore.foldlM_replaceWord? _ _ fits, ← store_eq]

theorem session_accounts_for_renewal :
    let operations (proposed : Nat) : List Operation :=
      [.setSession ⟨"isisessid=P", "", "", proposed⟩, .execute (Request.get "/x")]
    let run := (refusingOnce 9).operateAll (operations (UInt64.size - 1)) (.start 0)
    run.session = ⟨"isisessid=S", "C", "https://cluster:8080", 2⟩ ∧
      ((refusingOnce 9).operate run (.execute (Request.get "/y"))).store = run.store ∧
      ((refusingOnce 0).operateAll (operations 0) (.start 0)).store = run.store ∧
      (written run.journal).foldlM SessionStore.replaceWord? .empty = some run.store := by
  intro operations run
  have account := session_accounts_for_writes (refusingOnce 9) (operations (UInt64.size - 1)) 0
  exact ⟨account.1, account.2.1 (.execute (Request.get "/y")) rfl,
    account.2.2.1 (refusingOnce 0) (operations 0) rfl rfl, account.2.2.2 (by decide)⟩

end Coordinator

end

end ClusterRest
