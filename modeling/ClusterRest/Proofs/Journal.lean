import ClusterRest.Coordinator

/-!
Journals of calls: what was started, which sessions were given, and what one exchange or one login
adds.
-/

namespace ClusterRest

/-- Stores sessions one after the other. -/
def SessionStore.replaceAll (store : SessionStore) (sessions : List Session) : SessionStore :=
  sessions.foldl SessionStore.replace store

namespace SessionStore

@[simp] theorem replaceAll_nil (store : SessionStore) : store.replaceAll [] = store := rfl

@[simp] theorem replaceAll_cons (store : SessionStore) (given : Session) (rest : List Session) :
    store.replaceAll (given :: rest) = (store.replace given).replaceAll rest := rfl

theorem replaceAll_append (store : SessionStore) (first second : List Session) :
    store.replaceAll (first ++ second) = (store.replaceAll first).replaceAll second :=
  List.foldl_append

/-- The last session stays, and each write raises the generation by one. -/
theorem current_replaceAll (store : SessionStore) (sessions : List Session) :
    (store.replaceAll sessions).current =
      { sessions.getLastD store.current with
        generation := store.current.generation + sessions.length } := by
  induction sessions generalizing store with
  | nil => rfl
  | cons given rest ih =>
      rw [replaceAll_cons, ih, List.getLastD_cons, generation_replace, List.length_cons,
        Nat.add_assoc, Nat.add_comm 1]
      cases rest <;> rfl

theorem generation_replaceAll (store : SessionStore) (sessions : List Session) :
    (store.replaceAll sessions).current.generation =
      store.current.generation + sessions.length := by
  rw [current_replaceAll]

end SessionStore

namespace Entry

/-- Whether an entry is the start of a dispatch or of a login. -/
def isStart : Entry → Bool
  | .dispatched _ _ | .loggingIn => true
  | .loggedIn _ | .sessionSet _ | .fired => false

def dispatch? : Entry → Option (Request × Session)
  | .dispatched request session => some (request, session)
  | .loggingIn | .loggedIn _ | .sessionSet _ | .fired => none

/-- The session that a login granted, as it granted it. -/
def granted? : Entry → Option Session
  | .loggedIn granted => some granted
  | .dispatched _ _ | .loggingIn | .sessionSet _ | .fired => none

/-- The session that a caller set, as the caller gave it. -/
def given? : Entry → Option Session
  | .sessionSet given => some given
  | .dispatched _ _ | .loggingIn | .loggedIn _ | .fired => none

/-- The session that an entry brings into the store. -/
def written? : Entry → Option Session
  | .loggedIn session | .sessionSet session => some session
  | .dispatched _ _ | .loggingIn | .fired => none

end Entry

/-- The dispatches and logins that a journal tells of. -/
def starts (entries : List Entry) : List Entry := entries.filter Entry.isStart

/-- The requests that were dispatched, each with the session that went with it. -/
def dispatches (entries : List Entry) : List (Request × Session) :=
  entries.filterMap Entry.dispatch?

/-- The sessions that logins granted. -/
def grants (entries : List Entry) : List Session := entries.filterMap Entry.granted?

/-- The sessions that callers set. -/
def sets (entries : List Entry) : List Session := entries.filterMap Entry.given?

/-- The sessions that were stored, in order, as they were given. -/
def written (entries : List Entry) : List Session := entries.filterMap Entry.written?

section

variable (request : Request) (session : Session) (rest first second : List Entry)

@[simp] theorem starts_append : starts (first ++ second) = starts first ++ starts second :=
  List.filter_append first second

@[simp] theorem starts_dispatched :
    starts (.dispatched request session :: rest) = .dispatched request session :: starts rest := rfl

@[simp] theorem starts_loggingIn : starts (.loggingIn :: rest) = .loggingIn :: starts rest := rfl

@[simp] theorem written_append : written (first ++ second) = written first ++ written second :=
  List.filterMap_append

@[simp] theorem written_dispatched :
    written (.dispatched request session :: rest) = written rest := rfl

@[simp] theorem written_loggingIn : written (.loggingIn :: rest) = written rest := rfl

end

theorem length_written (entries : List Entry) :
    (written entries).length = (sets entries).length + (grants entries).length := by
  induction entries with
  | nil => rfl
  | cons entry rest ih =>
      simp only [written, sets, grants] at ih
      cases entry <;>
        simp only [written, sets, grants, List.filterMap_cons, Entry.written?, Entry.given?,
          Entry.granted?, List.length_cons] <;> omega

theorem written_of_no_grants {entries : List Entry} (none : grants entries = []) :
    written entries = sets entries := by
  induction entries with
  | nil => rfl
  | cons entry rest ih =>
      cases entry with
      | loggedIn granted => cases none
      | sessionSet given => exact congrArg (given :: ·) (ih none)
      | dispatched _ _ => exact ih none
      | loggingIn => exact ih none
      | fired => exact ih none

namespace Exchange

variable {World : Type}

/-- The entries that an exchange adds to the journal: sessions that others set, then the token. -/
def entries (exchange : Exchange World) : List Entry :=
  exchange.writes.map .sessionSet ++ if exchange.fires then [.fired] else []

theorem filterMap_entries {Fact : Type} {read : Entry → Option Fact}
    (silent : read .fired = none) (exchange : Exchange World) :
    exchange.entries.filterMap read = exchange.writes.filterMap (read ∘ .sessionSet) := by
  rw [entries, List.filterMap_append, List.filterMap_map]
  cases exchange.fires with
  | false => exact List.append_nil _
  | true => simp [silent]

@[simp] theorem starts_entries (exchange : Exchange World) : starts exchange.entries = [] := by
  simp only [entries, starts_append, List.append_eq_nil_iff]
  constructor
  · simp [starts, List.filter_eq_nil_iff, Entry.isStart]
  · cases exchange.fires <;> rfl

@[simp] theorem grants_entries (exchange : Exchange World) : grants exchange.entries = [] := by
  rw [grants, filterMap_entries rfl]
  exact List.filterMap_eq_nil_iff.mpr fun _ _ => rfl

@[simp] theorem sets_entries (exchange : Exchange World) :
    sets exchange.entries = exchange.writes := by
  rw [sets, filterMap_entries rfl]
  exact List.filterMap_some

@[simp] theorem written_entries (exchange : Exchange World) :
    written exchange.entries = exchange.writes := by
  rw [written, filterMap_entries rfl]
  exact List.filterMap_some

/-- Whether the reply refuses the session, which is what asks for a new one. -/
def isRefused (exchange : Exchange World) : Bool :=
  match exchange.outcome with
  | .ok _ => false
  | .error error => error.isUnauthorized

theorem isRefused_of_error {exchange : Exchange World} {error : ClientError}
    (answer : exchange.outcome = .error error) : exchange.isRefused = error.isUnauthorized := by
  simp only [isRefused, answer]

theorem not_isRefused_of_ok {exchange : Exchange World} {reply : Reply}
    (answer : exchange.outcome = .ok reply) : ¬ exchange.isRefused = true := by
  simp only [isRefused, answer, Bool.false_eq_true, not_false_eq_true]

end Exchange

namespace Login

variable {World : Type}

/-- The entries that a login adds to the journal: the token, then the session that is granted. -/
def entries (login : Login World) : List Entry :=
  (if login.fires then [.fired] else []) ++
    match login.outcome with
    | .ok granted => [.loggedIn granted]
    | .error _ => []

@[simp] theorem starts_entries (login : Login World) : starts login.entries = [] := by
  simp only [starts, entries]
  cases login.fires <;> cases login.outcome <;> rfl

theorem grants_entries (login : Login World) :
    grants login.entries = login.outcome.toOption.toList := by
  simp only [grants, entries]
  cases login.fires <;> cases login.outcome <;> rfl

@[simp] theorem written_entries (login : Login World) :
    written login.entries = login.outcome.toOption.toList := by
  simp only [written, entries]
  cases login.fires <;> cases login.outcome <;> rfl

end Login

end ClusterRest
