import ClusterRest.Proofs.Calls

/-!
Calls without a token: what one call sends, gives back and stores, by the answers of the cluster.
-/

namespace ClusterRest.Coordinator

variable {World : Type}

/-- What a call without a token starts, what it gives back and which store it leaves, told by the
answers alone. `first` is the answer to the request as the caller found the store, and `held` the
store by then, with the sessions that others set meanwhile. -/
inductive Renewal (coordinator : Coordinator World) (request : Request) (store : SessionStore)
    (world : World) : List Entry → Except ClientError Reply → SessionStore → Prop where
  | passed {first : Exchange World}
      (answered : coordinator.dispatch world request store.current = first)
      (kept : coordinator.login? = none ∨ first.isRefused = false) :
      Renewal coordinator request store world [.dispatched request store.current]
        first.outcome (store.replaceAll first.writes)
  | reused {first second : Exchange World} {login : World → Login World} {held : SessionStore}
      (answered : coordinator.dispatch world request store.current = first)
      (refused : first.isRefused = true)
      (guarded : coordinator.login? = some login)
      (held_eq : held = store.replaceAll first.writes)
      (newer : store.current.generation < held.current.generation)
      (resent : coordinator.dispatch first.world request held.current = second) :
      Renewal coordinator request store world
        [.dispatched request store.current, .dispatched request held.current]
        second.outcome (held.replaceAll second.writes)
  | loginFailed {first : Exchange World} {login : World → Login World} {held : SessionStore}
      {cause : ClientError}
      (answered : coordinator.dispatch world request store.current = first)
      (refused : first.isRefused = true)
      (guarded : coordinator.login? = some login)
      (held_eq : held = store.replaceAll first.writes)
      (newest : held.current.generation ≤ store.current.generation)
      (failed : (login first.world).outcome = .error cause) :
      Renewal coordinator request store world [.dispatched request store.current, .loggingIn]
        (.error (.reauthenticationFailed cause)) held
  | renewed {first second : Exchange World} {login : World → Login World}
      {held fresh : SessionStore} {granted : Session}
      (answered : coordinator.dispatch world request store.current = first)
      (refused : first.isRefused = true)
      (guarded : coordinator.login? = some login)
      (held_eq : held = store.replaceAll first.writes)
      (newest : held.current.generation ≤ store.current.generation)
      (succeeded : (login first.world).outcome = .ok granted)
      (fresh_eq : fresh = held.replace granted)
      (resent : coordinator.dispatch (login first.world).world request fresh.current = second) :
      Renewal coordinator request store world
        [.dispatched request store.current, .loggingIn, .dispatched request fresh.current]
        second.outcome (fresh.replaceAll second.writes)

theorem execute_renewal (coordinator : Coordinator World) {request : Request}
    (tokenless : request.cancellation = .none) (run : Run World) :
    Renewal coordinator request run.store run.world
      (starts ((coordinator.execute request).entries run))
      ((coordinator.execute request).outcome run)
      ((coordinator.execute request).after run).store := by
  have live := Request.isCancelled_of_none tokenless
  have course := execute_course coordinator request run
  generalize (coordinator.execute request).outcome run = outcome at course ⊢
  generalize (coordinator.execute request).entries run = entries at course ⊢
  generalize (coordinator.execute request).after run = after at course ⊢
  cases course with
  | stopped cancelled => simp [live] at cancelled
  | settled _ kept =>
      simp only [starts_dispatched, Exchange.starts_entries, afterSend_store]
      exact .passed rfl kept
  | stoppedBeforeRenewal _ cancelled => simp [live] at cancelled
  | reused refusal _ newer =>
      simp only [starts_dispatched, starts_append, Exchange.starts_entries, List.cons_append,
        List.nil_append, afterSend_store]
      refine .reused rfl refusal.refused refusal.guarded refusal.store_eq newer ?_
      rw [exchange, refusal.world_eq]
      rfl
  | loginFailed refusal _ newest failed =>
      simp only [starts_dispatched, starts_append, starts_loggingIn, Exchange.starts_entries,
        Login.starts_entries, List.cons_append, List.nil_append, afterLogin_store]
      rw [refusal.world_eq] at failed
      exact .loginFailed rfl refusal.refused refusal.guarded refusal.store_eq newest failed
  | stoppedBeforeReplay _ _ _ _ _ cancelled => simp [live] at cancelled
  | replayed refusal _ newest succeeded fresh_eq _ =>
      simp only [starts_dispatched, starts_append, starts_loggingIn, Exchange.starts_entries,
        Login.starts_entries, List.cons_append, List.nil_append, afterSend_store]
      have fresh_store := renewed_store _ _ _ ▸ congrArg Run.store fresh_eq
      rw [refusal.world_eq] at succeeded
      refine .renewed rfl refusal.refused refusal.guarded refusal.store_eq newest succeeded
        fresh_store ?_
      rw [exchange, fresh_eq, renewed_world, refusal.world_eq]
      rfl

/-- At most one login and one replay; the replay goes with a newer session. -/
theorem Renewal.bounds {coordinator : Coordinator World} {request : Request}
    {store after : SessionStore} {world : World} {started : List Entry}
    {outcome : Except ClientError Reply}
    (renewal : Renewal coordinator request store world started outcome after) :
    started.count .loggingIn ≤ 1 ∧
      ∃ replays : List Session,
        dispatches started = (request, store.current) :: replays.map (request, ·) ∧
        replays.length ≤ 1 ∧
        ∀ fresh ∈ replays, store.current.generation < fresh.generation := by
  cases renewal with
  | passed => exact ⟨by simp, [], rfl, by simp, by simp⟩
  | @reused _ _ _ held _ _ _ _ newer _ =>
      exact ⟨by simp, [held.current], rfl, by simp, by simpa using newer⟩
  | loginFailed => exact ⟨by simp, [], rfl, by simp, by simp⟩
  | @renewed _ _ _ held fresh _ _ _ _ held_eq _ _ fresh_eq _ =>
      have raised : store.current.generation < fresh.current.generation := by
        rw [fresh_eq, SessionStore.generation_replace, held_eq, SessionStore.generation_replaceAll]
        omega
      exact ⟨by simp, [fresh.current], rfl, by simp, by simpa using raised⟩

/-- A call without a token goes through a `Renewal`. So it logs in at most once, and sends the request
at most once more, with a newer session than the one that was refused. -/
theorem execute_renews_at_most_once (coordinator : Coordinator World) {request : Request}
    (tokenless : request.cancellation = .none) (run : Run World) :
    let call := coordinator.execute request
    let started := starts (call.entries run)
    Renewal coordinator request run.store run.world started (call.outcome run)
        (call.after run).store ∧
      started.count .loggingIn ≤ 1 ∧
      ∃ replays : List Session,
        dispatches started = (request, run.session) :: replays.map (request, ·) ∧
        replays.length ≤ 1 ∧
        ∀ fresh ∈ replays, run.session.generation < fresh.generation := by
  have renewal := execute_renewal coordinator tokenless run
  exact ⟨renewal, renewal.bounds⟩

/-- A cluster that refuses the first request and answers the later ones. Every login grants the same
session. -/
def refusingOnce (proposed : Nat) : Coordinator Nat where
  dispatch count _ _ :=
    if count = 0 then ⟨.error (.reply (.entries 401 "401 Unauthorized" [])), [], false, 1⟩
    else ⟨.ok ⟨200, .empty, []⟩, [], false, count + 1⟩
  login? := some fun count =>
    ⟨.ok ⟨"isisessid=S", "C", "https://cluster:8080", proposed⟩, false, count⟩

theorem execute_renews_refused_session :
    let request := Request.get "/x"
    let call := (refusingOnce 9).execute request
    let fresh : Session := ⟨"isisessid=S", "C", "https://cluster:8080", 1⟩
    request.cancellation = .none ∧
      starts (call.entries (.start 0)) =
        [.dispatched request .empty, .loggingIn, .dispatched request fresh] ∧
      Renewal (refusingOnce 9) request .empty 0 (starts (call.entries (.start 0)))
        (call.outcome (.start 0)) (call.after (.start 0)).store :=
  ⟨rfl, rfl, (execute_renews_at_most_once (refusingOnce 9) rfl (.start 0)).1⟩

end ClusterRest.Coordinator
