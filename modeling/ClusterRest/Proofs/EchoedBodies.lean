import ClusterRest.Client
import ClusterRest.Proofs.Calls
import ClusterRest.Proofs.Json.RoundTrip
import ClusterRest.Proofs.SessionRenewal

/-!
Values that a client sends to a cluster which answers with the body of the request. Main statement:
the client gives the same value back, whether the cluster answers at once or refuses the session
first, unless the value nests deeper than replies are read.
-/

namespace ClusterRest

open Json

/-! ### Replies -/

namespace Reply

theorem isEmpty_ofString_compact (value : Value) : (Bytes.ofString value.compact).isEmpty = false := by
  obtain ⟨byte, more, core, _⟩ := (Tree.ofValue value).core_eq_cons
  rw [← bytes_ofValue, Tree.bytes_eq, core, List.isEmpty_eq_false_iff]
  exact List.append_ne_nil_of_right_ne_nil _ (List.cons_ne_nil _ _)

/-- What a reply is decoded as that holds the compact text of a value. -/
theorem decodeValue_compact {reply : Reply} {value : Value} (distinct : value.HasDistinctNames)
    (integers : value.HasIntegers) (body : reply.body = Bytes.ofString value.compact) :
    (value.depth < depthLimit →
      ∃ same, reply.decodeValue = .ok (some same) ∧ value.Same same) ∧
    (depthLimit ≤ value.depth →
      ∃ reason, reply.decodeValue = .error (.deserialization reason value.compact)) := by
  have parsed := parse_compact distinct integers
  rw [parse] at parsed
  rw [decodeValue, decode, body, isEmpty_ofString_compact, if_neg Bool.false_ne_true]
  constructor
  · intro shallow
    obtain ⟨same, read, alike⟩ := parsed.1 shallow
    rw [read]
    exact ⟨same, rfl, alike⟩
  · intro deep
    obtain ⟨fault, read⟩ := parsed.2 deep
    have carried := Bytes.toStringLossy_ofString value.compact
    simp only [read, ClientError.ofFault, carried]
    exact ⟨_, rfl⟩

end Reply

/-! ### Echoes -/

variable {World : Type}

/-- The request came through, and the reply holds its own body. -/
def Exchange.Echoes (exchange : Exchange World) (request : Request) : Prop :=
  ∃ reply, exchange.outcome = .ok reply ∧ Http.isSuccess reply.status = true ∧
    request.body.content? = some reply.body

namespace Coordinator

/-- The courses of a call in which the request is echoed, each with what the call starts: at once, or
in answer to the replay, with a session that another caller stored meanwhile or that a login
granted. -/
inductive Echo (coordinator : Coordinator World) (request : Request) (run : Run World) :
    List Entry → Prop where
  | atOnce (echoes : (coordinator.exchange request run.begun).Echoes request) :
      Echo coordinator request run [.dispatched request run.session]
  | reused {login : World → Login World} {answered : Run World}
      (refusal : Refusal coordinator request run login answered)
      (newer : run.session.generation < answered.session.generation)
      (echoes : (coordinator.exchange request answered).Echoes request) :
      Echo coordinator request run
        [.dispatched request run.session, .dispatched request answered.session]
  | renewed {login : World → Login World} {answered fresh : Run World} {granted : Session}
      (refusal : Refusal coordinator request run login answered)
      (newest : answered.session.generation ≤ run.session.generation)
      (succeeded : (login answered.world).outcome = .ok granted)
      (fresh_eq : fresh = Coordinator.renewed login granted answered)
      (echoes : (coordinator.exchange request fresh).Echoes request) :
      Echo coordinator request run
        [.dispatched request run.session, .loggingIn, .dispatched request fresh.session]

section

variable {coordinator : Coordinator World} {request : Request} {run after : Run World}
  {entries started : List Entry}

/-- A course that ends with an echo gives back a reply with the body of the request. -/
theorem Course.of_echoes {exchange : Exchange World} (echoes : exchange.Echoes request)
    (course : Course coordinator request run exchange.outcome entries after) :
    starts ((coordinator.execute request).entries run) = starts entries ∧
      ∃ reply, (coordinator.execute request).outcome run = .ok reply ∧
        request.body.content? = some reply.body := by
  obtain ⟨reply, answer, _, body⟩ := echoes
  rw [course.entries_eq, course.outcome_eq]
  exact ⟨rfl, reply, answer, body⟩

theorem Echo.execute (tokenless : request.cancellation = .none)
    (echo : Echo coordinator request run started) :
    starts ((coordinator.execute request).entries run) = started ∧
      ∃ reply, (coordinator.execute request).outcome run = .ok reply ∧
        request.body.content? = some reply.body := by
  have live := Request.isCancelled_of_none tokenless
  cases echo with
  | atOnce echoes =>
      have kept : (coordinator.exchange request run.begun).isRefused = false := by
        obtain ⟨_, answer, _⟩ := echoes
        exact Bool.eq_false_iff.mpr (Exchange.not_isRefused_of_ok answer)
      have given := (Course.settled (live false) (.inr kept)).of_echoes echoes
      simpa only [starts_dispatched, Exchange.starts_entries] using given
  | @reused login answered refusal newer echoes =>
      have given := (Course.reused refusal (live answered.fired) newer).of_echoes echoes
      simpa only [starts_append, starts_dispatched, Exchange.starts_entries, List.cons_append,
        List.nil_append] using given
  | @renewed login answered fresh granted refusal newest succeeded fresh_eq echoes =>
      have given := (Course.replayed refusal (live answered.fired) newest succeeded fresh_eq
        (live fresh.fired)).of_echoes echoes
      simpa only [starts_append, starts_dispatched, starts_loggingIn, Exchange.starts_entries,
        Login.starts_entries, List.cons_append, List.nil_append] using given

end

end Coordinator

/-! ### Clients -/

namespace Client

theorem perform_execute (client : Client World) (request : Request) (run : Run World) :
    (client.execute request).perform run =
      ((client.coordinator.execute request).outcome run >>= Reply.decodeValue,
        (client.coordinator.execute request).after run) := by
  rw [execute, executeRaw, Call.perform_bind, Call.outcome, Call.after]
  rcases (client.coordinator.execute request).perform run with ⟨reply | error, after⟩ <;> rfl

theorem outcome_execute (client : Client World) (request : Request) (run : Run World) :
    (client.execute request).outcome run =
      ((client.coordinator.execute request).outcome run >>= Reply.decodeValue) := by
  rw [Call.outcome, perform_execute]

theorem entries_execute (client : Client World) (request : Request) (run : Run World) :
    (client.execute request).entries run = (client.coordinator.execute request).entries run := by
  rw [Call.entries, Call.after, perform_execute, Call.entries]

/-- A call sends a value as the JSON body of a request, each time the same, and makes of an echo the
same value again, or says that it cannot read the body. -/
structure RoundTrips (coordinator : Coordinator World) (value : Value) (request : Request)
    (call : Call World (Option Value)) : Prop where
  body : request.body = .json (Bytes.ofString value.compact)
  contentType : request.body.contentType? = some "application/json"
  sent : ∀ run, ∃ replays : List Session,
    dispatches (starts (call.entries run)) = (request, run.session) :: replays.map (request, ·) ∧
      replays.length ≤ 1
  started : ∀ run entries, coordinator.Echo request run entries →
    starts (call.entries run) = entries
  returned : ∀ run entries, coordinator.Echo request run entries → value.depth ≤ 127 →
    ∃ same, call.outcome run = .ok (some same) ∧ value.Same same
  tooDeep : ∀ run entries, coordinator.Echo request run entries → 127 < value.depth →
    ∃ reason, call.outcome run = .error (.deserialization reason value.compact)

/-- Any call does that whose request carries the value and no token. -/
theorem execute_roundTrips (client : Client World) {value : Value}
    (distinct : value.HasDistinctNames) (integers : value.HasIntegers) {request : Request}
    (body : request.body = .ofJson value) (tokenless : request.cancellation = .none) :
    RoundTrips client.coordinator value request (client.execute request) := by
  have decoded {run : Run World} {entries : List Entry}
      (echo : client.coordinator.Echo request run entries) :
      ∃ reply : Reply, (client.execute request).outcome run = reply.decodeValue ∧
        reply.body = Bytes.ofString value.compact := by
    obtain ⟨_, reply, answer, content⟩ := echo.execute tokenless
    refine ⟨reply, ?_, ?_⟩
    · rw [outcome_execute, answer]
      rfl
    · rw [body, Body.ofJson, Body.content?, Option.some.injEq] at content
      exact content.symm
  constructor
  case body => exact body
  case contentType => rw [body, Body.ofJson, Body.contentType?, Body.applicationJson]
  case sent =>
    intro run
    have renewal := Coordinator.execute_renewal client.coordinator tokenless run
    obtain ⟨_, replays, sent, once, _⟩ := renewal.bounds
    rw [entries_execute]
    exact ⟨replays, sent, once⟩
  case started =>
    intro run entries echo
    rw [entries_execute]
    exact (echo.execute tokenless).1
  case returned =>
    intro run entries echo shallow
    obtain ⟨reply, outcome, content⟩ := decoded echo
    rw [outcome]
    exact (Reply.decodeValue_compact distinct integers content).1 (Nat.lt_succ_of_le shallow)
  case tooDeep =>
    intro run entries echo deep
    obtain ⟨reply, outcome, content⟩ := decoded echo
    rw [outcome]
    exact (Reply.decodeValue_compact distinct integers content).2 deep

/-- Values that are posted or put come back from a cluster that echoes them, if it does so at once
and if it refuses the session first. -/
theorem post_and_put_round_trip (config : ClientConfig) (coordinator : Coordinator World)
    (version : ApiVersion) (path id : String) (params : Params) {value : Value}
    (distinct : value.HasDistinctNames) (integers : value.HasIntegers) :
    let client := Client.ofCoordinator config coordinator version
    RoundTrips coordinator value
        ((((Request.post path).withId id).withParams params).withJson value)
        (client.post path id params value) ∧
      RoundTrips coordinator value
        ((((Request.put path).withId id).withParams params).withJson value)
        (client.put path id params value) := by
  intro client
  constructor
  · exact execute_roundTrips client distinct integers rfl rfl
  · exact execute_roundTrips client distinct integers rfl rfl

/-- A cluster that refuses the first request and echoes the later ones. -/
def echoingOnceRefused : Coordinator Nat where
  dispatch count request _ :=
    if count = 0 then ⟨.error (.reply (.entries 401 "401 Unauthorized" [])), [], false, 1⟩
    else ⟨.ok ⟨200, .empty, request.body.content?.getD []⟩, [], false, count + 1⟩
  login? := some grant
where
  grant (count : Nat) : Login Nat :=
    ⟨.ok ⟨"isisessid=S", "C", "https://cluster:8080", 0⟩, false, count⟩

theorem echo_echoingOnceRefused {request : Request} (tokenless : request.cancellation = .none)
    {content : Bytes} (body : request.body.content? = some content) :
    echoingOnceRefused.Echo request (.start 0) [.dispatched request .empty, .loggingIn,
      .dispatched request ⟨"isisessid=S", "C", "https://cluster:8080", 1⟩] := by
  have live := Request.isCancelled_of_none tokenless false
  have given : request.body.content? = some (request.body.content?.getD []) := by
    rw [body, Option.getD_some]
  have refusal : Coordinator.Refusal echoingOnceRefused request (.start 0)
      echoingOnceRefused.grant (echoingOnceRefused.afterSend request (.start 0)) :=
    ⟨live, rfl, rfl, rfl⟩
  have reply : (echoingOnceRefused.dispatch 1 request ⟨"isisessid=S", "C",
    "https://cluster:8080", 1⟩).Echoes request := ⟨_, rfl, rfl, given⟩
  exact .renewed refusal (Nat.le_refl 0) rfl rfl reply

/-- A null in so many lists. -/
def nested : Nat → Value
  | 0 => .null
  | depth + 1 => .array [nested depth]

theorem nested_wellFormed (depth : Nat) :
    (nested depth).depth = depth ∧ (nested depth).HasDistinctNames ∧
      (nested depth).HasIntegers := by
  induction depth with
  | zero => exact ⟨rfl, .null, .null⟩
  | succ depth ih =>
      obtain ⟨deep, distinct, integers⟩ := ih
      refine ⟨?_, .array (List.forall_mem_singleton.mpr distinct),
        .array (List.forall_mem_singleton.mpr integers)⟩
      rw [nested, Value.depth, elementsDepth, elementsDepth, deep, Nat.max_zero]

/-- After a refusal come back: the greatest and the least integer with a text of escapes, and lists
in lists, but not one list too many. -/
theorem post_and_put_round_trip_refused :
    let config := ClientConfig.new "https://cluster:8080" "root" "secret"
    let client := Client.ofCoordinator config echoingOnceRefused ⟨9, 0⟩
    let extremes := Value.object [("text", .string "\"\n😀"),
      ("numbers", .array [.number (.natural 18446744073709551615), .number (.negative 9223372036854775808)])]
    (∃ same, (client.post "/x" "" ⟨[]⟩ extremes).outcome (.start 0) = .ok (some same) ∧
        extremes.Same same) ∧
      (∃ same, (client.put "/x" "" ⟨[]⟩ (nested 127)).outcome (.start 0) = .ok (some same) ∧
        (nested 127).Same same) ∧
      ∃ reason, (client.put "/x" "" ⟨[]⟩ (nested 128)).outcome (.start 0) =
        .error (.deserialization reason (nested 128).compact) := by
  intro config client extremes
  have distinct : extremes.HasDistinctNames := by
    refine .object (by decide) ?_
    simp only [List.forall_mem_cons, List.not_mem_nil, false_implies, implies_true, and_true]
    refine ⟨.string _, .array ?_⟩
    simp only [List.forall_mem_cons, List.not_mem_nil, false_implies, implies_true, and_true]
    exact ⟨.number _, .number _⟩
  have integers : extremes.HasIntegers := by
    refine .object ?_
    simp only [List.forall_mem_cons, List.not_mem_nil, false_implies, implies_true, and_true]
    refine ⟨.string _, .array ?_⟩
    simp only [List.forall_mem_cons, List.not_mem_nil, false_implies, implies_true, and_true]
    exact ⟨.number (by decide), .number (by decide)⟩
  have whole (depth : Nat) := nested_wellFormed depth
  refine ⟨?_, ?_, ?_⟩
  · apply (post_and_put_round_trip config echoingOnceRefused ⟨9, 0⟩ "/x" "" ⟨[]⟩ distinct
      integers).1.returned (.start 0) _ (echo_echoingOnceRefused rfl rfl)
    decide
  · apply (post_and_put_round_trip config echoingOnceRefused ⟨9, 0⟩ "/x" "" ⟨[]⟩ (whole 127).2.1
      (whole 127).2.2).2.returned (.start 0) _ (echo_echoingOnceRefused rfl rfl)
    exact Nat.le_of_eq (whole 127).1
  · apply (post_and_put_round_trip config echoingOnceRefused ⟨9, 0⟩ "/x" "" ⟨[]⟩ (whole 128).2.1
      (whole 128).2.2).2.tooDeep (.start 0) _ (echo_echoingOnceRefused rfl rfl)
    exact Nat.lt_of_lt_of_eq (by decide) (whole 128).1.symm

end Client

end ClusterRest
