import ClusterRest.Proofs.SessionRenewal

/-!
Callers that share one guarded coordinator: what holds of the session that they share in every
interleaving of their steps.
-/

namespace ClusterRest.Sharing

open Coordinator

/-- How far a caller is in a call. A request is under way with the session that the caller found, a
refused session waits for the lock, or the request is under way again with a newer session. -/
inductive Phase where
  | idle
  | waiting (held : Session)
  | refused (stale : Session)
  | replaying (stale fresh : Session)

namespace Phase

/-- Only a reply that refuses the session keeps a caller in its call. -/
def afterAnswer (held : Session) : Except ClientError Reply → Phase
  | .ok _ => .idle
  | .error error => if error.isUnauthorized then .refused held else .idle

def afterRenewal (stale : Session) : Except ClientError Session → Phase
  | .ok fresh => .replaying stale fresh
  | .error _ => .idle

end Phase

structure System (Caller : Type) where
  store : SessionStore
  phase : Caller → Phase

/-- What one step does. A step that holds the lock tells what it noted in its journal, which shows
whether it logged in. -/
inductive Event (Caller : Type) where
  | began (caller : Caller) (held : Session)
  | answered (caller : Caller) (held : Session) (outcome : Except ClientError Reply)
  | renewal (caller : Caller) (stale : Session) (noted : List Entry)
      (outcome : Except ClientError Session)
  | replayed (caller : Caller) (stale fresh : Session) (outcome : Except ClientError Reply)
  | sessionSet (stored : Session)
  | authenticated (noted : List Entry) (outcome : Except ClientError Session)

/-- The session that a step with a login stored, as the store numbered it. -/
def stored? (noted : List Entry) : Except ClientError Session → Option Session
  | .ok stored => if (grants noted).isEmpty then none else some stored
  | .error _ => none

namespace Event

variable {Caller : Type}

/-- Whether a refused session of some generation was renewed by a login that succeeded. -/
def renewsFrom (generation : Nat) : Event Caller → Bool
  | .renewal _ stale noted _ => stale.generation == generation && !(grants noted).isEmpty
  | _ => false

/-- The session that a step stored, as the store numbered it. -/
def written? : Event Caller → Option Session
  | .sessionSet stored => some stored
  | .renewal _ _ noted outcome | .authenticated noted outcome => stored? noted outcome
  | .began _ _ | .answered _ _ _ | .replayed _ _ _ _ => none

end Event

/-- A run over a shared store, as a step that holds the lock finds it. -/
def lockedRun (store : SessionStore) : Run Unit := { Run.start () with store }

variable {Caller : Type}

namespace System

/-- Any store, and no caller in a call. -/
def start (store : SessionStore) : System Caller := ⟨store, fun _ => .idle⟩

def withStore (system : System Caller) (store : SessionStore) : System Caller :=
  { system with store }

end System

/-- What a caller remembers, next to the generation that is stored. -/
def Phase.Bounded (generation : Nat) : Phase → Prop
  | .idle => True
  | .waiting held => held.generation ≤ generation
  | .refused stale => stale.generation ≤ generation
  | .replaying stale fresh => stale.generation < fresh.generation

theorem Phase.Bounded.mono {phase : Phase} {first second : Nat} (bounded : phase.Bounded first)
    (grows : first ≤ second) : phase.Bounded second := by
  cases phase with
  | idle => trivial
  | waiting held => exact Nat.le_trans bounded grows
  | refused stale => exact Nat.le_trans bounded grows
  | replaying stale fresh => exact bounded

/-- The invariant of all steps: no caller waits with a session newer than the stored one, and a
replay goes with a newer session than the refused one. -/
def Consistent (system : System Caller) : Prop :=
  ∀ caller, (system.phase caller).Bounded system.store.current.generation

theorem start_consistent (store : SessionStore) :
    Consistent (System.start store : System Caller) := fun _ => trivial

theorem Consistent.withStore {system : System Caller} (consistent : Consistent system)
    {store : SessionStore}
    (grows : system.store.current.generation ≤ store.current.generation) :
    Consistent (system.withStore store) :=
  fun caller => (consistent caller).mono grows

variable [DecidableEq Caller]

def System.enter (system : System Caller) (caller : Caller) (phase : Phase) : System Caller :=
  { system with phase := fun other => if other = caller then phase else system.phase other }

theorem Consistent.enter {system : System Caller} (consistent : Consistent system) (caller : Caller)
    {phase : Phase} (bounded : phase.Bounded system.store.current.generation) :
    Consistent (system.enter caller phase) := by
  intro other
  by_cases same : other = caller
  · simpa [System.enter, same] using bounded
  · simpa [System.enter, same] using consistent other

/-- The steps that callers take in turn. Replies and logins may come to anything. -/
inductive Step : System Caller → Event Caller → System Caller → Prop where
  | began {system : System Caller} {caller : Caller} (idle : system.phase caller = .idle) :
      Step system (.began caller system.store.current)
        (system.enter caller (.waiting system.store.current))
  | answered {system : System Caller} {caller : Caller} {held : Session}
      (waiting : system.phase caller = .waiting held) (outcome : Except ClientError Reply) :
      Step system (.answered caller held outcome)
        (system.enter caller (.afterAnswer held outcome))
  | renewal {system : System Caller} {caller : Caller} {stale : Session}
      (refused : system.phase caller = .refused stale) (login : Login Unit)
      {outcome : Except ClientError Session} {after : Run Unit}
      (performed : (renew (fun _ => login) stale.generation).perform (lockedRun system.store) =
        (outcome, after)) :
      Step system (.renewal caller stale after.journal outcome)
        ((system.withStore after.store).enter caller (.afterRenewal stale outcome))
  | replayed {system : System Caller} {caller : Caller} {stale fresh : Session}
      (replaying : system.phase caller = .replaying stale fresh)
      (outcome : Except ClientError Reply) :
      Step system (.replayed caller stale fresh outcome) (system.enter caller .idle)
  | sessionSet {system : System Caller} (given : Session) {stored : Session} {after : Run Unit}
      (performed : (setSession given).run (lockedRun system.store) = (stored, after)) :
      Step system (.sessionSet stored) (system.withStore after.store)
  | authenticated {system : System Caller} (coordinator : Coordinator Unit)
      (guarded : coordinator.isGuarded = true)
      {outcome : Except ClientError Session} {after : Run Unit}
      (performed : coordinator.authenticate.perform (lockedRun system.store) =
        (outcome, after)) :
      Step system (.authenticated after.journal outcome) (system.withStore after.store)

/-- Any number of steps, one after the other. -/
inductive Path : System Caller → List (Event Caller) → System Caller → Prop where
  | refl (system : System Caller) : Path system [] system
  | step {first system next : System Caller} {events : List (Event Caller)} {event : Event Caller}
      (path : Path first events system) (step : Step system event next) :
      Path first (events ++ [event]) next

/-- A login under the lock: it fails and stores nothing, or it stores what is granted. -/
inductive Locked (store : SessionStore) :
    List Entry → Except ClientError Session → SessionStore → Prop where
  | failed {noted : List Entry} {cause : ClientError} (nothing : grants noted = []) :
      Locked store noted (.error cause) store
  | stored {noted : List Entry} {granted : Session} (one : grants noted = [granted]) :
      Locked store noted (.ok (store.replace granted).current) (store.replace granted)

theorem Locked.store_eq {store after : SessionStore} {noted : List Entry}
    {outcome : Except ClientError Session} (locked : Locked store noted outcome after) :
    (stored? noted outcome = none ∧ after = store) ∨
      ∃ given, after = store.replace given ∧ stored? noted outcome = some after.current := by
  cases locked with
  | failed _ => exact Or.inl ⟨rfl, rfl⟩
  | @stored granted one => exact Or.inr ⟨granted, rfl, by simp [stored?, one]⟩

theorem Locked.raises {store after : SessionStore} {noted : List Entry} {fresh : Session}
    (locked : Locked store noted (.ok fresh) after) :
    fresh.generation = store.current.generation + 1 := by
  cases locked
  rfl

theorem Locked.raises_of_grant {store after : SessionStore} {noted : List Entry}
    {outcome : Except ClientError Session} (locked : Locked store noted outcome after)
    (granted : grants noted ≠ []) :
    after.current.generation = store.current.generation + 1 := by
  cases locked with
  | failed nothing => exact absurd nothing granted
  | stored _ => rfl

theorem logIn_locked {login : Login Unit} {store : SessionStore}
    {outcome : Except ClientError Session} {after : Run Unit}
    (performed : (logIn fun _ => login).perform (lockedRun store) = (outcome, after)) :
    .loggingIn ∈ after.journal ∧ Locked store after.journal outcome after.store := by
  have noted : (afterLogin (fun _ => login) (lockedRun store)).journal =
      .loggingIn :: login.entries := afterLogin_journal _ _
  have granted_eq : grants (.loggingIn :: login.entries) = login.outcome.toOption.toList :=
    login.grants_entries
  rw [perform_logIn] at performed
  cases answer : login.outcome with
  | error cause =>
      simp only [answer, Prod.mk.injEq] at performed
      obtain ⟨rfl, rfl⟩ := performed
      rw [noted, afterLogin_store]
      rw [answer] at granted_eq
      exact ⟨List.mem_cons_self, .failed granted_eq⟩
  | ok granted =>
      simp only [answer, Prod.mk.injEq] at performed
      obtain ⟨rfl, rfl⟩ := performed
      rw [Run.session, renewed_journal, renewed_store]
      rw [answer] at granted_eq
      exact ⟨List.mem_cons_self, .stored granted_eq⟩

theorem renew_reuses (login : Login Unit) {stale : Nat} {store : SessionStore}
    (newer : stale < store.current.generation) :
    (renew (fun _ => login) stale).perform (lockedRun store) =
      (.ok store.current, lockedRun store) := by
  rw [perform_renew]
  exact if_pos newer

theorem renew_logs_in (login : Login Unit) {stale : Nat} {store : SessionStore}
    (newest : store.current.generation ≤ stale) :
    (renew (fun _ => login) stale).perform (lockedRun store) =
      (logIn fun _ => login).perform (lockedRun store) := by
  rw [perform_renew]
  exact if_neg (Nat.not_lt.mpr newest)

/-- A refresh under the lock takes a newer session if there is one, and logs in otherwise. -/
theorem renew_locked {login : Login Unit} {stale : Nat} {store : SessionStore}
    {outcome : Except ClientError Session} {after : Run Unit}
    (performed : (renew (fun _ => login) stale).perform (lockedRun store) = (outcome, after)) :
    (stale < store.current.generation ∧ outcome = .ok store.current ∧ after.journal = [] ∧
        after.store = store) ∨
      (store.current.generation ≤ stale ∧ .loggingIn ∈ after.journal ∧
        Locked store after.journal outcome after.store) := by
  by_cases newer : stale < store.current.generation
  · rw [renew_reuses login newer, Prod.mk.injEq] at performed
    obtain ⟨rfl, rfl⟩ := performed
    exact Or.inl ⟨newer, rfl, rfl, rfl⟩
  · have newest : store.current.generation ≤ stale := Nat.le_of_not_lt newer
    rw [renew_logs_in login newest] at performed
    exact Or.inr ⟨newest, logIn_locked performed⟩

theorem authenticate_locked {coordinator : Coordinator Unit}
    (guarded : coordinator.isGuarded = true) {store : SessionStore}
    {outcome : Except ClientError Session} {after : Run Unit}
    (performed : coordinator.authenticate.perform (lockedRun store) = (outcome, after)) :
    Locked store after.journal outcome after.store := by
  obtain ⟨login, guarded⟩ := Option.isSome_iff_exists.mp guarded
  simp only [authenticate, guarded] at performed
  have same : (logIn login).perform (lockedRun store) =
      (logIn fun _ => login ()).perform (lockedRun store) := rfl
  rw [same] at performed
  exact (logIn_locked performed).2

/-- A step writes one session or leaves the store alone. -/
theorem Step.store_eq {system next : System Caller} {event : Event Caller}
    (step : Step system event next) :
    (event.written? = none ∧ next.store = system.store) ∨
      ∃ given, next.store = system.store.replace given ∧
        event.written? = some next.store.current := by
  cases step with
  | began _ => exact Or.inl ⟨rfl, rfl⟩
  | answered _ _ => exact Or.inl ⟨rfl, rfl⟩
  | renewal _ login performed =>
      rcases renew_locked performed with ⟨_, rfl, noted, kept⟩ | ⟨_, _, locked⟩
      · exact Or.inl ⟨by simp [Event.written?, stored?, noted, grants], kept⟩
      · exact locked.store_eq
  | replayed _ _ => exact Or.inl ⟨rfl, rfl⟩
  | sessionSet given performed =>
      obtain ⟨rfl, rfl⟩ := Prod.mk.inj performed
      exact Or.inr ⟨given, rfl, rfl⟩
  | authenticated coordinator guarded performed =>
      exact (authenticate_locked guarded performed).store_eq

theorem Step.generation_le {system next : System Caller} {event : Event Caller}
    (step : Step system event next) :
    system.store.current.generation ≤ next.store.current.generation := by
  rcases step.store_eq with ⟨_, kept⟩ | ⟨given, replaced, _⟩
  · exact Nat.le_of_eq (congrArg (·.current.generation) kept.symm)
  · rw [replaced, SessionStore.generation_replace]
    omega

theorem bounded_afterAnswer {held : Session} {generation : Nat}
    (bounded : held.generation ≤ generation) (outcome : Except ClientError Reply) :
    (Phase.afterAnswer held outcome).Bounded generation := by
  cases outcome with
  | ok reply => trivial
  | error error =>
      simp only [Phase.afterAnswer]
      split
      · exact bounded
      · trivial

theorem bounded_afterRenewal {login : Login Unit} {stale : Session} {store : SessionStore}
    (bounded : stale.generation ≤ store.current.generation)
    {outcome : Except ClientError Session} {after : Run Unit}
    (performed : (renew (fun _ => login) stale.generation).perform (lockedRun store) =
      (outcome, after)) (generation : Nat) :
    (Phase.afterRenewal stale outcome).Bounded generation := by
  cases outcome with
  | error cause => trivial
  | ok fresh =>
      change stale.generation < fresh.generation
      rcases renew_locked performed with ⟨newer, found, _, _⟩ | ⟨_, _, locked⟩
      · rw [Except.ok.inj found]
        exact newer
      · rw [locked.raises]
        omega

theorem Step.consistent {system next : System Caller} {event : Event Caller}
    (step : Step system event next) (consistent : Consistent system) : Consistent next := by
  have grows := step.generation_le
  cases step with
  | @began caller _ => exact consistent.enter caller (Nat.le_refl _)
  | @answered caller held waiting outcome =>
      have bounded := consistent caller
      rw [waiting] at bounded
      exact consistent.enter caller (bounded_afterAnswer bounded outcome)
  | @renewal caller stale refused login _ _ performed =>
      have bounded := consistent caller
      rw [refused] at bounded
      exact (consistent.withStore grows).enter caller (bounded_afterRenewal bounded performed _)
  | @replayed caller _ _ _ _ => exact consistent.enter caller trivial
  | sessionSet _ _ => exact consistent.withStore grows
  | authenticated _ _ _ => exact consistent.withStore grows

/-- A login renews a session only where no newer one is stored, and stores a newer one. -/
theorem Step.renewsFrom_spec {system next : System Caller} {event : Event Caller}
    (step : Step system event next) (consistent : Consistent system) {generation : Nat}
    (renews : event.renewsFrom generation = true) :
    system.store.current.generation ≤ generation ∧
      generation < next.store.current.generation := by
  cases step with
  | @renewal caller stale refused login outcome after performed =>
      simp only [Event.renewsFrom, Bool.and_eq_true, beq_iff_eq] at renews
      obtain ⟨rfl, granted⟩ := renews
      have bounded := consistent caller
      rw [refused] at bounded
      rcases renew_locked performed with ⟨_, _, noted, _⟩ | ⟨newest, _, locked⟩
      · simp [noted, grants] at granted
      · refine ⟨newest, ?_⟩
        have raised := locked.raises_of_grant (by simpa using granted)
        change stale.generation < after.store.current.generation
        rw [raised]
        exact Nat.lt_succ_of_le bounded
  | began _ => cases renews
  | answered _ _ => cases renews
  | replayed _ _ => cases renews
  | sessionSet _ _ => cases renews
  | authenticated _ _ _ => cases renews

theorem Path.consistent {first system : System Caller} {events : List (Event Caller)}
    (path : Path first events system) (consistent : Consistent first) : Consistent system := by
  induction path with
  | refl => exact consistent
  | step _ step ih => exact step.consistent ih

theorem Path.renewals_le_one {first system : System Caller} {events : List (Event Caller)}
    (path : Path first events system) (consistent : Consistent first) (generation : Nat) :
    (events.filter (·.renewsFrom generation)).length ≤ 1 ∧
      (events.filter (·.renewsFrom generation) ≠ [] →
        generation < system.store.current.generation) := by
  induction path with
  | refl => exact ⟨Nat.zero_le 1, fun some => absurd rfl some⟩
  | @step system next events event path step ih =>
      have grows := step.generation_le
      rw [List.filter_append]
      by_cases renews : event.renewsFrom generation = true
      · -- A renewal before this one would have left a newer session in the store.
        obtain ⟨newest, newer⟩ := step.renewsFrom_spec (path.consistent consistent) renews
        have none : events.filter (·.renewsFrom generation) = [] :=
          Decidable.byContradiction fun some => Nat.not_lt.mpr newest (ih.2 some)
        rw [none]
        exact ⟨by simp [renews], fun _ => newer⟩
      · have skipped : [event].filter (·.renewsFrom generation) = [] := by simp [renews]
        rw [skipped, List.append_nil]
        exact ⟨ih.1, fun some => Nat.lt_of_lt_of_le (ih.2 some) grows⟩

theorem Path.written_increasing {first system : System Caller} {events : List (Event Caller)}
    (path : Path first events system) :
    (events.filterMap Event.written?).Pairwise (·.generation < ·.generation) ∧
      ∀ stored ∈ events.filterMap Event.written?,
        stored.generation ≤ system.store.current.generation := by
  induction path with
  | refl => exact ⟨.nil, by simp⟩
  | @step system next events event path step ih =>
      rw [List.filterMap_append]
      rcases step.store_eq with ⟨nothing, kept⟩ | ⟨given, replaced, written⟩
      · have skipped : [event].filterMap Event.written? = [] := by simp [nothing]
        rw [skipped, List.append_nil, kept]
        exact ih
      · have added : [event].filterMap Event.written? = [next.store.current] := by simp [written]
        have raised : next.store.current.generation = system.store.current.generation + 1 := by
          rw [replaced, SessionStore.generation_replace]
        rw [added]
        constructor
        · refine List.pairwise_append.mpr ⟨ih.1, List.pairwise_singleton _ _, ?_⟩
          intro stored earlier last same
          rw [List.mem_singleton.mp same, raised]
          exact Nat.lt_succ_of_le (ih.2 stored earlier)
        · intro stored member
          rcases List.mem_append.mp member with earlier | same
          · rw [raised]
            exact Nat.le_succ_of_le (ih.2 stored earlier)
          · exact Nat.le_of_eq (congrArg Session.generation (List.mem_singleton.mp same))

/-- In every interleaving a refused session is renewed by at most one login that succeeds, and all
writes have generations of their own. What holds of single steps holds after any interleaving: the
generation never falls, a refresh logs in only while nothing newer is stored, and a replay goes
with a newer session than the one that was refused. -/
theorem callers_share_renewals {store : SessionStore} {events : List (Event Caller)}
    {system : System Caller} (path : Path (.start store) events system) :
    (∀ generation, (events.filter (·.renewsFrom generation)).length ≤ 1) ∧
      (events.filterMap Event.written?).Pairwise (·.generation < ·.generation) ∧
      ∀ event next, Step system event next →
        system.store.current.generation ≤ next.store.current.generation ∧
        (∀ caller stale noted outcome, event = .renewal caller stale noted outcome →
          .loggingIn ∈ noted → system.store.current.generation ≤ stale.generation) ∧
        (∀ caller stale fresh outcome, event = .replayed caller stale fresh outcome →
          stale.generation < fresh.generation) := by
  have consistent := path.consistent (start_consistent store)
  refine ⟨fun generation => (path.renewals_le_one (start_consistent store) generation).1,
    path.written_increasing.1, ?_⟩
  intro event next step
  refine ⟨step.generation_le, ?_, ?_⟩
  · rintro caller stale noted outcome rfl loggedIn
    cases step with
    | renewal refused login performed =>
        rcases renew_locked performed with ⟨_, _, none, _⟩ | ⟨newest, _, _⟩
        · simp [none] at loggedIn
        · exact newest
  · rintro caller stale fresh outcome rfl
    cases step with
    | replayed replaying _ =>
        have bounded := consistent caller
        rw [replaying] at bounded
        exact bounded

/-- Two callers, refused with the same session: the first renews it, the second takes that one. -/
def refusedTogether : List (Event Bool) :=
  let refusal : Except ClientError Reply := .error (.reply (.entries 401 "401 Unauthorized" []))
  let granted : Session := ⟨"isisessid=S", "C", "https://cluster:8080", 9⟩
  let fresh : Session := { granted with generation := 1 }
  let reply : Except ClientError Reply := .ok ⟨200, .empty, []⟩
  [.began true .empty, .began false .empty, .answered true .empty refusal,
    .answered false .empty refusal,
    .renewal true .empty [.loggingIn, .loggedIn granted] (.ok fresh),
    .renewal false .empty [] (.ok fresh), .replayed true .empty fresh reply,
    .replayed false .empty fresh reply]

theorem refusedTogether_path :
    ∃ system, Path (.start .empty) refusedTogether system := by
  let refusal : Except ClientError Reply := .error (.reply (.entries 401 "401 Unauthorized" []))
  let granting : Login Unit :=
    ⟨.ok ⟨"isisessid=S", "C", "https://cluster:8080", 9⟩, false, ()⟩
  have began := ((Path.refl (.start .empty)).step (@Step.began Bool _ _ true rfl)).step
    (@Step.began _ _ _ false rfl)
  have answered := (began.step (@Step.answered _ _ _ true _ rfl refusal)).step
    (@Step.answered _ _ _ false _ rfl refusal)
  have renewed := (answered.step (@Step.renewal _ _ _ true _ rfl granting _ _ rfl)).step
    (@Step.renewal _ _ _ false _ rfl granting _ _ rfl)
  exact ⟨_, (renewed.step (@Step.replayed _ _ _ true _ _ rfl (.ok ⟨200, .empty, []⟩))).step
    (@Step.replayed _ _ _ false _ _ rfl (.ok ⟨200, .empty, []⟩))⟩

theorem refusedTogether_shares_login :
    (refusedTogether.filter (·.renewsFrom 0)).length = 1 ∧
      ∃ system, Path (.start .empty) refusedTogether system ∧
        (∀ generation, (refusedTogether.filter (·.renewsFrom generation)).length ≤ 1) := by
  obtain ⟨system, path⟩ := refusedTogether_path
  exact ⟨rfl, system, path, (callers_share_renewals path).1⟩

/-- Some interleaving leads to a store and brings a caller to a phase. -/
def Reaches (first : System Caller) (caller : Caller) (store : SessionStore) (phase : Phase) :
    Prop :=
  ∃ events system, Path first events system ∧ system.store = store ∧ system.phase caller = phase

namespace Reaches

variable {first : System Caller} {caller : Caller} {store : SessionStore} {stale fresh : Session}
  {phase : Phase}

theorem began (reached : Reaches first caller store .idle) :
    Reaches first caller store (.waiting store.current) := by
  obtain ⟨_, system, path, rfl, idle⟩ := reached
  exact ⟨_, _, path.step (.began idle), rfl, if_pos rfl⟩

theorem answered (reached : Reaches first caller store (.waiting stale))
    (outcome : Except ClientError Reply) :
    Reaches first caller store (.afterAnswer stale outcome) := by
  obtain ⟨_, system, path, rfl, waiting⟩ := reached
  exact ⟨_, _, path.step (.answered waiting outcome), rfl, if_pos rfl⟩

theorem renewed (reached : Reaches first caller store (.refused stale)) (login : Login Unit)
    {outcome : Except ClientError Session} {after : Run Unit}
    (performed : (renew (fun _ => login) stale.generation).perform (lockedRun store) =
      (outcome, after)) :
    Reaches first caller after.store (.afterRenewal stale outcome) := by
  obtain ⟨_, system, path, rfl, refused⟩ := reached
  exact ⟨_, _, path.step (.renewal refused login performed), rfl, if_pos rfl⟩

theorem replayed (reached : Reaches first caller store (.replaying stale fresh))
    (outcome : Except ClientError Reply) : Reaches first caller store .idle := by
  obtain ⟨_, system, path, rfl, replaying⟩ := reached
  exact ⟨_, _, path.step (.replayed replaying outcome), rfl, if_pos rfl⟩

theorem sets (reached : Reaches first caller store phase) (sessions : List Session) :
    Reaches first caller (store.replaceAll sessions) phase := by
  induction sessions generalizing store with
  | nil => exact reached
  | cons given rest ih =>
      obtain ⟨_, system, path, rfl, same⟩ := reached
      exact ih ⟨_, _, path.step (.sessionSet given rfl), rfl, same⟩

end Reaches

theorem afterAnswer_of_refused {World : Type} {exchange : Exchange World} {held : Session}
    (refused : exchange.isRefused = true) :
    Phase.afterAnswer held exchange.outcome = .refused held := by
  cases answer : exchange.outcome with
  | ok reply => exact absurd refused (Exchange.not_isRefused_of_ok answer)
  | error error =>
      rw [Exchange.isRefused_of_error answer] at refused
      exact if_pos refused

theorem afterAnswer_of_kept {World : Type} {exchange : Exchange World} {held : Session}
    (kept : exchange.isRefused = false) : Phase.afterAnswer held exchange.outcome = .idle := by
  cases answer : exchange.outcome with
  | ok reply => rfl
  | error error =>
      rw [Exchange.isRefused_of_error answer] at kept
      exact if_neg (Bool.eq_false_iff.mp kept)

/-- A call of a guarded coordinator is one of the interleavings: its caller takes the steps of a
call, with the writes of the others between them, and the same session is stored in the end. -/
theorem execute_reaches {World : Type} {coordinator : Coordinator World}
    (guarded : coordinator.isGuarded = true) {request : Request}
    (tokenless : request.cancellation = .none) (run : Run World) {first : System Caller}
    {caller : Caller} (idle : Reaches first caller run.store .idle) :
    Reaches first caller ((coordinator.execute request).after run).store .idle := by
  have renewal := execute_renewal coordinator tokenless run
  generalize starts ((coordinator.execute request).entries run) = started at renewal
  generalize (coordinator.execute request).outcome run = outcome at renewal
  generalize ((coordinator.execute request).after run).store = store at renewal ⊢
  have came (answer : Exchange World) := (idle.began.sets answer.writes).answered answer.outcome
  cases renewal with
  | @passed answer _ kept =>
      have kept : answer.isRefused = false := by
        rcases kept with direct | kept
        · simp [isGuarded, direct] at guarded
        · exact kept
      have settled := came answer
      rw [afterAnswer_of_kept kept] at settled
      exact settled
  | @reused answer second _ held _ refused _ held_eq newer _ =>
      have waits := came answer
      rw [afterAnswer_of_refused refused, ← held_eq] at waits
      have found := renew_reuses ⟨.error .cancelled, false, ()⟩ newer
      exact ((waits.renewed _ found).sets second.writes).replayed second.outcome
  | @loginFailed answer _ held cause _ refused _ held_eq newest _ =>
      have waits := came answer
      rw [afterAnswer_of_refused refused, ← held_eq] at waits
      have logsIn := renew_logs_in ⟨.error cause, false, ()⟩ newest
      have ended := waits.renewed _ (logsIn.trans (perform_logIn _ _))
      rwa [afterLogin_store] at ended
  | @renewed answer second _ held fresh granted _ refused _ held_eq newest _ fresh_eq _ =>
      have waits := came answer
      rw [afterAnswer_of_refused refused, ← held_eq] at waits
      have logsIn := renew_logs_in ⟨.ok granted, false, ()⟩ newest
      have replays := waits.renewed _ (logsIn.trans (perform_logIn _ _))
      rw [renewed_store] at replays
      rw [fresh_eq]
      exact (replays.sets second.writes).replayed second.outcome

end ClusterRest.Sharing
