import ClusterRest.Proofs.Calls
import Mathlib.Data.List.Basic

/-!
Calls with a token: nothing starts once the token has fired, and a call that stops there is told
apart from one that ends by itself.
-/

namespace ClusterRest

/-- Nothing starts after the token has fired. -/
def HeedsToken (entries : List Entry) : Prop :=
  entries.Pairwise fun earlier later => earlier = .fired → later.isStart = false

namespace HeedsToken

theorem of_no_starts {entries : List Entry} (none : starts entries = []) : HeedsToken entries :=
  List.pairwise_of_forall_mem_list fun _ _ later member _ =>
    Bool.eq_false_iff.mpr (List.filter_eq_nil_iff.mp none later member)

theorem append {first second : List Entry} (unfired : .fired ∉ first)
    (heeds : HeedsToken second) : HeedsToken (first ++ second) := by
  refine List.pairwise_append.mpr ⟨?_, heeds, ?_⟩
  · refine List.pairwise_of_forall_mem_list ?_
    rintro _ member _ _ rfl
    exact absurd member unfired
  · rintro _ member _ _ rfl
    exact absurd member unfired

theorem cons {entry : Entry} {rest : List Entry} (other : entry ≠ .fired)
    (heeds : HeedsToken rest) : HeedsToken (entry :: rest) :=
  List.pairwise_cons.mpr ⟨fun _ _ same => absurd same other, heeds⟩

end HeedsToken

/-- A journal without the token. -/
def unfired (entries : List Entry) : List Entry := entries.filter (· ≠ .fired)

@[simp] theorem unfired_append (first second : List Entry) :
    unfired (first ++ second) = unfired first ++ unfired second :=
  List.filter_append first second

@[simp] theorem unfired_dispatched (request : Request) (session : Session) (rest : List Entry) :
    unfired (.dispatched request session :: rest) = .dispatched request session :: unfired rest :=
  rfl

@[simp] theorem unfired_loggingIn (rest : List Entry) :
    unfired (.loggingIn :: rest) = .loggingIn :: unfired rest := rfl

theorem loggingIn_notMem {entries : List Entry} (none : starts entries = []) :
    .loggingIn ∉ entries := fun member =>
  List.filter_eq_nil_iff.mp none _ member rfl

section

variable {World : Type}

theorem Exchange.fired_mem_entries (exchange : Exchange World) :
    .fired ∈ exchange.entries ↔ exchange.fires = true := by
  obtain ⟨_, writes, fires, _⟩ := exchange
  cases fires <;> simp [entries]

theorem Login.fired_mem_entries (login : Login World) :
    .fired ∈ login.entries ↔ login.fires = true := by
  obtain ⟨outcome, fires, _⟩ := login
  cases fires <;> cases outcome <;> simp [entries]

theorem Exchange.loggingIn_notMem_dispatched (request : Request) (held : Session)
    (exchange : Exchange World) : .loggingIn ∉ .dispatched request held :: exchange.entries :=
  List.not_mem_cons_of_ne_of_not_mem Entry.noConfusion (loggingIn_notMem exchange.starts_entries)

theorem Login.granted_of_entries {login : Login World} {granted : Session} {later : List Entry}
    (entries_eq : login.entries = .fired :: .loggedIn granted :: later) :
    login.outcome = .ok granted ∧ later = [] := by
  obtain ⟨outcome, fires, _⟩ := login
  cases fires <;> cases outcome <;> simp_all [entries]

/-- The same exchange, with a token that stays quiet. -/
def Exchange.unfiring (exchange : Exchange World) : Exchange World :=
  { exchange with fires := false }

def Login.unfiring (login : Login World) : Login World := { login with fires := false }

/-- The same cluster, as it answers a caller whose token stays quiet. -/
def Coordinator.unfiring (coordinator : Coordinator World) : Coordinator World where
  dispatch world request session := (coordinator.dispatch world request session).unfiring
  login? := coordinator.login?.map fun login world => (login world).unfiring

theorem Exchange.entries_unfiring (exchange : Exchange World) :
    exchange.unfiring.entries = unfired exchange.entries := by
  obtain ⟨_, writes, fires, _⟩ := exchange
  have given : unfired (writes.map .sessionSet) = writes.map .sessionSet :=
    List.filter_eq_self.mpr (by simp)
  cases fires with
  | false => simp only [unfiring, entries, unfired_append, given]; rfl
  | true => simp only [unfiring, entries, unfired_append, given]; rfl

theorem Login.entries_unfiring (login : Login World) :
    login.unfiring.entries = unfired login.entries := by
  obtain ⟨outcome, fires, _⟩ := login
  cases fires <;> cases outcome <;> rfl

end

namespace Coordinator

variable {World : Type}

/-- A run as it would be with a token that stays quiet. -/
structure Calm (calm run : Run World) : Prop where
  store_eq : calm.store = run.store
  world_eq : calm.world = run.world
  unfired : calm.fired = false

/-- A call that a token stopped where the same call with a quiet token starts something more. -/
structure Stopped (entries undisturbed : List Entry) (outcome : Except ClientError Reply) :
    Prop where
  goes_on : ∃ next rest, undisturbed = unfired entries ++ next :: rest ∧ next.isStart = true
  cancelled : outcome = .error .cancelled

section

variable {coordinator : Coordinator World} {request : Request} {run answered calm after : Run World}
  {login : World → Login World} {outcome : Except ClientError Reply} {entries : List Entry}

theorem Refusal.fired_notMem (refusal : Refusal coordinator request run login answered)
    (token : request.cancellation = .live) (live : request.isCancelled answered.fired = false) :
    .fired ∉ .dispatched request run.session ::
      (coordinator.exchange request run.begun).entries := by
  rw [Request.isCancelled_of_live token, refusal.fired_eq] at live
  apply List.not_mem_cons_of_ne_of_not_mem Entry.noConfusion
  rw [Exchange.fired_mem_entries]
  exact Bool.eq_false_iff.mp live

theorem renewed_fires {granted : Session} (token : request.cancellation = .live)
    (live : request.isCancelled answered.fired = false) :
    request.isCancelled (renewed login granted answered).fired = (login answered.world).fires := by
  rw [Request.isCancelled_of_live token] at live ⊢
  rw [renewed_fired, live, Bool.false_or]

theorem Course.heedsToken (token : request.cancellation = .live)
    (course : Course coordinator request run outcome entries after) : HeedsToken entries := by
  have dispatched (held : Session) (exchange : Exchange World) :
      HeedsToken (.dispatched request held :: exchange.entries) :=
    .cons Entry.noConfusion (.of_no_starts exchange.starts_entries)
  have loggedIn (login : Login World) : HeedsToken (.loggingIn :: login.entries) :=
    .cons Entry.noConfusion (.of_no_starts login.starts_entries)
  cases course with
  | stopped _ => exact .nil
  | settled _ _ => exact dispatched _ _
  | stoppedBeforeRenewal _ _ => exact dispatched _ _
  | reused refusal live _ => exact .append (refusal.fired_notMem token live) (dispatched _ _)
  | loginFailed refusal live _ _ => exact .append (refusal.fired_notMem token live) (loggedIn _)
  | stoppedBeforeReplay refusal live _ _ _ _ =>
      exact .append (refusal.fired_notMem token live) (loggedIn _)
  | @replayed login answered _ _ refusal live _ _ fresh_eq stillLive =>
      rw [fresh_eq, renewed_fires token live] at stillLive
      have silent : .fired ∉ .loggingIn :: (login answered.world).entries := by
        apply List.not_mem_cons_of_ne_of_not_mem Entry.noConfusion
        rw [Login.fired_mem_entries]
        exact Bool.eq_false_iff.mp stillLive
      rw [List.append_assoc]
      exact .append (refusal.fired_notMem token live) (.append silent (dispatched _ _))

theorem Calm.session_eq (calms : Calm calm run) : calm.session = run.session :=
  congrArg SessionStore.current calms.store_eq

theorem Calm.exchange_eq (calms : Calm calm run) :
    coordinator.unfiring.exchange request calm = (coordinator.exchange request run).unfiring := by
  rw [exchange, exchange, calms.world_eq, calms.session_eq]
  rfl

theorem Calm.renewed (calms : Calm calm run) (granted : Session) :
    Calm (renewed (fun world => (login world).unfiring) granted calm)
      (renewed login granted run) := by
  constructor
  · rw [renewed_store, renewed_store, calms.store_eq]
  · rw [renewed_world, renewed_world, calms.world_eq]
    rfl
  · rw [renewed_fired, calms.unfired]
    rfl

theorem Calm.isCancelled (calms : Calm calm run) (token : request.cancellation = .live) :
    request.isCancelled calm.fired = false := by
  rw [Request.isCancelled_of_live token, calms.unfired]

/-- With a quiet token the same session is refused, and the call goes on. -/
theorem Refusal.undisturbed (refusal : Refusal coordinator request run login answered) :
    ∃ calm, Calm calm answered ∧
      Refusal coordinator.unfiring request run (fun world => (login world).unfiring) calm := by
  refine ⟨coordinator.unfiring.afterSend request run.begun, ⟨?_, ?_, ?_⟩, ?_⟩
  · rw [afterSend_store, refusal.store_eq]
    rfl
  · rw [afterSend_world, refusal.world_eq]
    rfl
  · rw [afterSend_fired]
    rfl
  · refine ⟨refusal.live, ?_, refusal.refused, rfl⟩
    rw [unfiring, refusal.guarded]
    rfl

theorem Refusal.goes_on (refusal : Refusal coordinator request run login answered)
    (live : request.isCancelled answered.fired = false)
    (stays : ∀ granted, request.isCancelled (renewed login granted answered).fired = false) :
    ∃ next rest, (coordinator.execute request).entries run =
      .dispatched request run.session :: (coordinator.exchange request run.begun).entries ++
        next :: rest ∧ next.isStart = true := by
  by_cases newer : run.session.generation < answered.session.generation
  · exact ⟨_, _, (Course.reused refusal live newer).entries_eq, rfl⟩
  have newest := Nat.le_of_not_lt newer
  cases answer : (login answered.world).outcome with
  | error cause => exact ⟨_, _, (Course.loginFailed refusal live newest answer).entries_eq, rfl⟩
  | ok granted =>
      have goes := (Course.replayed refusal live newest answer rfl (stays granted)).entries_eq
      rw [List.append_assoc] at goes
      exact ⟨_, _, goes, rfl⟩

/-- With a quiet token a renewed session is taken for the replay. -/
theorem Refusal.replays_undisturbed {granted : Session}
    (refusal : Refusal coordinator request run login answered)
    (token : request.cancellation = .live)
    (newest : answered.session.generation ≤ run.session.generation)
    (succeeded : (login answered.world).outcome = .ok granted) :
    ∃ after, Course coordinator.unfiring request run
      (coordinator.exchange request (renewed login granted answered)).outcome
      (unfired (.dispatched request run.session ::
          (coordinator.exchange request run.begun).entries ++
          .loggingIn :: (login answered.world).entries) ++
        .dispatched request (renewed login granted answered).session ::
          unfired (coordinator.exchange request
            (renewed login granted answered)).entries)
      after := by
  obtain ⟨calm, calms, calmRefusal⟩ := refusal.undisturbed
  rw [← calms.session_eq] at newest
  have first_eq : coordinator.unfiring.exchange request run.begun =
      (coordinator.exchange request run.begun).unfiring := rfl
  have granted_eq : (login calm.world).unfiring.outcome = .ok granted := by
    rw [calms.world_eq]
    exact succeeded
  have fresh_calm := @Calm.renewed _ _ _ login calms granted
  have replayed := Course.replayed calmRefusal (calms.isCancelled token) newest granted_eq rfl
    (fresh_calm.isCancelled token)
  rw [fresh_calm.exchange_eq, fresh_calm.session_eq, first_eq, calms.world_eq,
    Exchange.entries_unfiring, Exchange.entries_unfiring, Login.entries_unfiring] at replayed
  rw [unfired_append, unfired_dispatched, unfired_loggingIn]
  exact ⟨_, replayed⟩

theorem Course.undisturbed (token : request.cancellation = .live)
    (course : Course coordinator request run outcome entries after) :
    ((coordinator.unfiring.execute request).entries run = unfired entries ∧
        (coordinator.unfiring.execute request).outcome run = outcome) ∨
      (.fired ∈ entries ∧
        Stopped entries ((coordinator.unfiring.execute request).entries run) outcome) := by
  have first_eq : coordinator.unfiring.exchange request run.begun =
      (coordinator.exchange request run.begun).unfiring := rfl
  -- Where the token stops the call, the quiet one still starts something; elsewhere both agree.
  cases course with
  | stopped cancelled =>
      rw [Request.isCancelled_of_live token] at cancelled
      cases cancelled
  | settled live kept =>
      have direct : coordinator.unfiring.login? = none ∨
          (coordinator.unfiring.exchange request run.begun).isRefused = false := by
        refine kept.imp (fun none => ?_) id
        rw [unfiring, none]
        rfl
      have settled := Course.settled live direct
      rw [first_eq, Exchange.entries_unfiring] at settled
      exact Or.inl ⟨settled.entries_eq, settled.outcome_eq⟩
  | stoppedBeforeRenewal refusal cancelled =>
      obtain ⟨calm, calms, calmRefusal⟩ := refusal.undisturbed
      rw [Request.isCancelled_of_live token, refusal.fired_eq, ← Exchange.fired_mem_entries]
        at cancelled
      refine Or.inr ⟨List.mem_cons_of_mem _ cancelled, ?_, rfl⟩
      obtain ⟨next, rest, goes, start⟩ := calmRefusal.goes_on (calms.isCancelled token)
        fun granted => (calms.renewed granted).isCancelled token
      rw [first_eq, Exchange.entries_unfiring] at goes
      exact ⟨next, rest, goes, start⟩
  | reused refusal live newer =>
      obtain ⟨calm, calms, calmRefusal⟩ := refusal.undisturbed
      rw [← calms.session_eq] at newer
      have reused := Course.reused calmRefusal (calms.isCancelled token) newer
      rw [calms.exchange_eq, first_eq, calms.session_eq] at reused
      refine Or.inl ⟨?_, reused.outcome_eq⟩
      rw [reused.entries_eq]
      simp only [unfired_append, unfired_dispatched, Exchange.entries_unfiring]
  | loginFailed refusal live newest failed =>
      obtain ⟨calm, calms, calmRefusal⟩ := refusal.undisturbed
      rw [← calms.session_eq] at newest
      rw [← calms.world_eq] at failed
      have ended := Course.loginFailed calmRefusal (calms.isCancelled token) newest failed
      refine Or.inl ⟨?_, ended.outcome_eq⟩
      rw [ended.entries_eq, first_eq, calms.world_eq]
      simp only [unfired_append, unfired_dispatched, unfired_loggingIn, Exchange.entries_unfiring,
        Login.entries_unfiring]
  | @stoppedBeforeReplay login answered _ _ refusal live newest succeeded fresh_eq cancelled =>
      rw [fresh_eq, renewed_fires token live, ← Login.fired_mem_entries] at cancelled
      refine Or.inr ⟨List.mem_append_right _ (List.mem_cons_of_mem _ cancelled), ?_, rfl⟩
      obtain ⟨_, replays⟩ := refusal.replays_undisturbed token newest succeeded
      exact ⟨_, _, replays.entries_eq, rfl⟩
  | @replayed login answered _ _ refusal _ newest succeeded fresh_eq _ =>
      obtain ⟨_, replays⟩ := refusal.replays_undisturbed token newest succeeded
      rw [← fresh_eq] at replays
      refine Or.inl ⟨?_, replays.outcome_eq⟩
      rw [replays.entries_eq, unfired_append _ (.dispatched request _ :: _), unfired_dispatched]

/-- A call whose token fires during a login that succeeds ends there, and the session stays. -/
theorem Course.keeps_granted (token : request.cancellation = .live)
    (course : Course coordinator request run outcome entries after) {earlier later : List Entry}
    {granted : Session}
    (entries_eq : entries = earlier ++ .loggingIn :: .fired :: .loggedIn granted :: later) :
    later = [] ∧ outcome = .error .cancelled ∧
      after.session = { granted with
        generation := (run.store.replaceAll (sets earlier)).current.generation + 1 } := by
  have loggingIn : .loggingIn ∈ entries := by simp [entries_eq]
  have sent_quiet := (coordinator.exchange request run.begun).loggingIn_notMem_dispatched request
    run.session
  cases course with
  | stopped _ => cases loggingIn
  | settled _ _ => exact absurd loggingIn sent_quiet
  | stoppedBeforeRenewal _ _ => exact absurd loggingIn sent_quiet
  | reused _ _ _ =>
      rcases List.mem_append.mp loggingIn with first | second
      · exact absurd first sent_quiet
      · exact absurd second (Exchange.loggingIn_notMem_dispatched _ _ _)
  | @loginFailed login answered _ _ _ _ failed =>
      have quiet := loggingIn_notMem (login answered.world).starts_entries
      obtain ⟨_, _, rest_eq⟩ := (List.append_cons_inj_of_notMem sent_quiet quiet).mp entries_eq
      rw [(Login.granted_of_entries rest_eq).1] at failed
      cases failed
  | @stoppedBeforeReplay login answered _ _ refusal _ _ succeeded fresh_eq _ =>
      have quiet := loggingIn_notMem (login answered.world).starts_entries
      obtain ⟨rfl, _, rest_eq⟩ := (List.append_cons_inj_of_notMem sent_quiet quiet).mp entries_eq
      obtain ⟨granted_eq, ended⟩ := Login.granted_of_entries rest_eq
      rw [succeeded] at granted_eq
      cases granted_eq
      have sets_eq : sets (.dispatched request run.session ::
          (coordinator.exchange request run.begun).entries) =
          (coordinator.exchange request run.begun).writes := Exchange.sets_entries _
      refine ⟨ended, rfl, ?_⟩
      rw [fresh_eq, Run.session, renewed_store, refusal.store_eq, sets_eq]
      rfl
  | @replayed login answered fresh stored _ live _ succeeded fresh_eq stillLive =>
      rw [fresh_eq, renewed_fires token live] at stillLive
      have login_entries : (login answered.world).entries = [.loggedIn stored] := by
        rw [Login.entries, stillLive, succeeded]
        rfl
      have quiet : .loggingIn ∉ (login answered.world).entries ++
          .dispatched request fresh.session :: (coordinator.exchange request fresh).entries := by
        intro member
        rcases List.mem_append.mp member with first | second
        · exact loggingIn_notMem (Login.starts_entries _) first
        · exact Exchange.loggingIn_notMem_dispatched _ _ _ second
      rw [List.append_assoc] at entries_eq
      obtain ⟨_, _, rest_eq⟩ := (List.append_cons_inj_of_notMem sent_quiet quiet).mp entries_eq
      rw [login_entries] at rest_eq
      cases rest_eq

end

theorem execute_dispatches (coordinator : Coordinator World) {request : Request}
    (live : request.isCancelled false = false) (run : Run World) :
    ∃ rest, (coordinator.execute request).entries run =
      .dispatched request run.session :: rest := by
  have course := execute_course coordinator request run
  generalize (coordinator.execute request).outcome run = outcome at course
  generalize (coordinator.execute request).entries run = entries at course ⊢
  generalize (coordinator.execute request).after run = after at course
  cases course with
  | stopped cancelled =>
      rw [live] at cancelled
      cases cancelled
  | settled _ _ => exact ⟨_, rfl⟩
  | stoppedBeforeRenewal _ _ => exact ⟨_, rfl⟩
  | reused _ _ _ => exact ⟨_, rfl⟩
  | loginFailed _ _ _ _ => exact ⟨_, rfl⟩
  | stoppedBeforeReplay _ _ _ _ _ _ => exact ⟨_, rfl⟩
  | replayed _ _ _ _ _ _ => exact ⟨_, rfl⟩

/-- Nothing starts once the token of a call has fired. Next to the same call with a token that stays
quiet, a call gives the same, or it is cancelled where that one goes on and its own token has
fired. A session that came while the token fired stays stored, though the call is cancelled. -/
theorem execute_heeds_token (coordinator : Coordinator World) {request : Request}
    (token : request.cancellation ≠ .none) (run : Run World) :
    let call := coordinator.execute request
    let undisturbed := coordinator.unfiring.execute (request.withCancellation .live)
    (request.cancellation = .fired → starts (call.entries run) = []) ∧
    HeedsToken (call.entries run) ∧
    ((undisturbed.entries run = unfired (call.entries run) ∧
        undisturbed.outcome run = call.outcome run) ∨
      ((request.cancellation = .fired ∨ .fired ∈ call.entries run) ∧
        Stopped (call.entries run) (undisturbed.entries run) (call.outcome run))) ∧
    ∀ earlier granted later,
      call.entries run = earlier ++ .loggingIn :: .fired :: .loggedIn granted :: later →
      later = [] ∧ call.outcome run = .error .cancelled ∧
        (call.after run).session = { granted with
          generation := (run.store.replaceAll (sets earlier)).current.generation + 1 } := by
  intro call undisturbed
  cases came : request.cancellation with
  | none => exact absurd came token
  | live =>
      have course := execute_course coordinator request run
      have same : request.withCancellation .live = request := by
        rw [Request.withCancellation, ← came]
      have undisturbed_eq : undisturbed = coordinator.unfiring.execute request :=
        congrArg coordinator.unfiring.execute same
      rw [undisturbed_eq]
      refine ⟨fun impossible => ?_, course.heedsToken came, ?_, ?_⟩
      · cases impossible
      · exact (course.undisturbed came).imp id fun ⟨fired, stopped⟩ => ⟨Or.inr fired, stopped⟩
      · intro earlier granted later entries_eq
        exact course.keeps_granted came entries_eq
  | fired =>
      have stops : Course coordinator request run (.error .cancelled) [] run.begun :=
        .stopped (Request.isCancelled_of_fired came false)
      have nothing : call.entries run = [] := stops.entries_eq
      have cancelled : call.outcome run = .error .cancelled := stops.outcome_eq
      rw [nothing, cancelled]
      have live : (request.withCancellation .live).isCancelled false = false := rfl
      obtain ⟨rest, goes⟩ := execute_dispatches coordinator.unfiring live run
      refine ⟨fun _ => rfl, .nil, Or.inr ⟨Or.inl rfl, ⟨_, rest, goes, rfl⟩, rfl⟩, ?_⟩
      intro earlier granted later entries_eq
      simp at entries_eq

/-- A cluster that refuses every request, and a token that fires while a login succeeds. -/
def firingAtLogin : Coordinator Unit where
  dispatch _ _ _ := ⟨.error (.reply (.entries 401 "401 Unauthorized" [])), [], false, ()⟩
  login? := some fun _ => ⟨.ok ⟨"isisessid=S", "C", "https://cluster:8080", 9⟩, true, ()⟩

theorem firingAtLogin_keeps_session :
    let request := (Request.get "/x").withCancellation .live
    let call := firingAtLogin.execute request
    request.cancellation ≠ .none ∧ HeedsToken (call.entries (.start ())) ∧
      call.outcome (.start ()) = .error .cancelled ∧
      (call.after (.start ())).session = ⟨"isisessid=S", "C", "https://cluster:8080", 1⟩ := by
  intro request call
  have token : request.cancellation ≠ .none := by decide
  have heeds := execute_heeds_token firingAtLogin token (.start ())
  obtain ⟨_, cancelled, stored⟩ := heeds.2.2.2 [.dispatched request .empty]
    ⟨"isisessid=S", "C", "https://cluster:8080", 9⟩ [] rfl
  exact ⟨token, heeds.2.1, cancelled, stored⟩

end Coordinator

end ClusterRest
