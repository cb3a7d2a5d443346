import ClusterRest.Proofs.Cookies
import ClusterRest.Proofs.Redaction

/-!
What dumps tell of messages. Of secret headers a dump tells only how many there are, and of the body
of a login all but the password; so one exchange is dumped alike whatever the secrets in it are.
-/

namespace ClusterRest

/-! ### Outcomes -/

namespace SameOutcome

variable {α β : Type}

theorem bind {alike : α → α → Prop} {alike' : β → β → Prop} {first second : Except ClientError α}
    {next next' : α → Except ClientError β} (same : SameOutcome alike first second)
    (step : ∀ one other, alike one other → SameOutcome alike' (next one) (next' other)) :
    SameOutcome alike' (first.bind next) (second.bind next') := by
  cases same with
  | failed error => exact .failed error
  | given related => exact step _ _ related

theorem refl {alike : α → α → Prop} (same : ∀ value, alike value value)
    (outcome : Except ClientError α) : SameOutcome alike outcome outcome := by
  cases outcome with
  | error error => exact .failed error
  | ok value => exact .given (same value)

end SameOutcome

/-! ### Headers -/

namespace Http.Headers

open Dump

/-- The values of a header as far as a dump tells them: those of a secret one count only. -/
def shownValues (name : String) (values : List Bytes) : List Bytes :=
  if isSecretHeader name then values.map fun _ => [] else values

def shownGroup (group : String × List Bytes) : String × List Bytes :=
  (group.1, shownValues group.1 group.2)

/-- Headers as far as a dump tells them. -/
def shown (headers : Headers) : Headers := ⟨headers.groups.map shownGroup⟩

theorem shownValues_nil (name : String) : shownValues name [] = [] := by
  rw [shownValues]
  split <;> rfl

theorem shownValues_secret {name : String} (secret : isSecretHeader name = true) (value : Bytes) :
    shownValues name [value] = [[]] := by
  rw [shownValues, if_pos secret]
  rfl

theorem shownValues_append (name : String) (first second : List Bytes) :
    shownValues name (first ++ second) = shownValues name first ++ shownValues name second := by
  rw [shownValues, shownValues, shownValues]
  split
  · exact List.map_append
  · rfl

theorem map_updateGroups {name : String} {change change' : List Bytes → List Bytes}
    (agree : ∀ values, shownValues name (change values) = change' (shownValues name values))
    (groups : List (String × List Bytes)) :
    (updateGroups name change groups).map shownGroup =
      updateGroups name change' (groups.map shownGroup) := by
  induction groups with
  | nil => simp only [updateGroups, List.map_cons, List.map_nil, shownGroup, agree, shownValues_nil]
  | cons group rest ih =>
      obtain ⟨other, values⟩ := group
      rw [updateGroups, List.map_cons, shownGroup, updateGroups]
      split
      next same =>
        subst same
        rw [List.map_cons, shownGroup, agree]
      next => rw [List.map_cons, shownGroup, ih]

theorem shown_append (headers : Headers) (name : String) (value : Bytes) :
    (headers.append name value).shown =
      ⟨updateGroups name (· ++ shownValues name [value]) headers.shown.groups⟩ :=
  congrArg Headers.mk (map_updateGroups (fun values => shownValues_append name values [value]) _)

theorem shown_replaceAll (headers : Headers) (name : String) (values : List Bytes) :
    (headers.replaceAll name values).shown =
      headers.shown.replaceAll name (shownValues name values) := by
  refine congrArg Headers.mk (map_updateGroups (fun _ => ?_) headers.groups)
  rfl

theorem shown_extend (headers others : Headers) :
    (headers.extend others).shown = headers.shown.extend others.shown := by
  have each (groups : List (String × List Bytes)) :
      (groups.foldl (fun result group => result.replaceAll group.1 group.2) headers).shown =
        (groups.map shownGroup).foldl (fun result group => result.replaceAll group.1 group.2)
          headers.shown := by
    induction groups generalizing headers with
    | nil => rfl
    | cons group rest ih =>
        rw [List.foldl_cons, List.map_cons, List.foldl_cons, ih, shown_replaceAll]
        rfl
  exact each others.groups

/-- A dump tells nothing else of headers. -/
theorem headerLines_shown (headers : Headers) :
    headerLines headers.shown = headerLines headers := by
  have each (name : String) (values : List Bytes) :
      (shownValues name values).map (headerLine name) = values.map (headerLine name) := by
    rw [shownValues]
    cases secret : isSecretHeader name with
    | false => rfl
    | true =>
        rw [if_pos rfl, List.map_map]
        exact List.map_congr_left fun value _ => by
          simp only [Function.comp_apply, headerLine, secret, if_true]
  rw [headerLines, headerLines, toList, toList, shown, List.flatMap_map, List.map_flatMap,
    List.map_flatMap]
  refine congrArg String.join (congrArg (List.flatMap · headers.groups) (funext fun group => ?_))
  rw [List.map_map, List.map_map]
  exact each group.1 group.2

theorem headerLines_congr {first second : Headers} (same : first.shown = second.shown) :
    headerLines first = headerLines second := by
  rw [← headerLines_shown, same, headerLines_shown]

theorem values_shown {name : String} (told : isSecretHeader name = false) (headers : Headers) :
    headers.shown.values name = headers.values name := by
  obtain ⟨groups⟩ := headers
  rw [values, values, shown]
  induction groups with
  | nil => rfl
  | cons group rest ih =>
      obtain ⟨other, values⟩ := group
      rw [List.map_cons, shownGroup, valuesIn, valuesIn, ih]
      by_cases same : other = name
      · subst same
        rw [if_pos rfl, if_pos rfl, shownValues, if_neg (by simp [told])]
      · rw [if_neg same, if_neg same]

end Http.Headers

namespace Transport

open Dump Http

theorem isSecret_authorization : isSecretHeader authorizationName = true := by
  simp only [isSecretHeader, Text.sameIgnoringCase, Text.asciiLower_eq]
  decide

theorem isSecret_cookie : isSecretHeader cookieName = true := by
  simp only [isSecretHeader, Text.sameIgnoringCase, Text.asciiLower_eq]
  decide

theorem isSecret_csrf : isSecretHeader csrfName = true := by
  simp only [isSecretHeader, Text.sameIgnoringCase, Text.asciiLower_eq]
  decide

theorem isSecret_setCookie : isSecretHeader setCookieName = true := by
  simp only [isSecretHeader, Text.sameIgnoringCase, Text.asciiLower_eq]
  decide

theorem isSecret_userAgent : isSecretHeader userAgentName = false := by
  simp only [isSecretHeader, Text.sameIgnoringCase, Text.asciiLower_eq]
  decide

end Transport

theorem Http.Headers.SameButTokens.shown {first second : Http.Headers}
    (same : first.SameButTokens second) : first.shown = second.shown := by
  obtain ⟨groups⟩ := first
  obtain ⟨others⟩ := second
  refine congrArg Http.Headers.mk ?_
  have each : List.Forall₂ SameHeader groups others := same
  induction each with
  | nil => rfl
  | @cons group other rest more head _ ih =>
      obtain ⟨name, values⟩ := group
      obtain ⟨name', values'⟩ := other
      obtain ⟨rfl, rfl | ⟨rfl, cookies⟩⟩ := head
      · rw [List.map_cons, List.map_cons, ih ‹_›]
      · rw [List.map_cons, List.map_cons, ih ‹_›]
        have many : values.map (fun _ => ([] : Bytes)) = values'.map fun _ => [] := by
          rw [List.map_const', List.map_const', cookies.length_eq]
        simp only [shownGroup, shownValues, Transport.isSecret_setCookie, if_true, many]

/-! ### Messages -/

/-- Requests that are dumped alike: they may differ in the body, as far as no dump shows it. -/
structure Request.Alike (first second : Request) : Prop where
  rest : first.withBody .empty = second.withBody .empty
  contentType : first.body.contentType? = second.body.contentType?
  body : Dump.bodyText first.body.content? = Dump.bodyText second.body.content?

theorem Request.Alike.refl (request : Request) : request.Alike request := ⟨rfl, rfl, rfl⟩

namespace Transport

open Dump Http

/-- The user that a connection names with every request. -/
def Credentials.user? : Credentials → Option String
  | .basic username _ => some username
  | .session => none

/-- Connections that are the same but for a password. -/
structure Connection.Alike (first second : Connection) : Prop where
  endpoint : first.endpoint = second.endpoint
  user : first.credentials.user? = second.credentials.user?
  verbosity : first.verbosity = second.verbosity
  timeout : first.timeout = second.timeout

/-- Messages that are dumped alike. -/
structure Message.Alike (first second : Message) : Prop where
  method : first.method = second.method
  url : first.url = second.url
  headers : first.headers.shown = second.headers.shown
  body : bodyText first.body = bodyText second.body

theorem sessionHeaders_eq (session : Session) (headers : Headers) :
    sessionHeaders session headers =
      if !session.isAuthenticated then .ok headers
      else if isHeaderValue (Bytes.ofString session.cookie) &&
          isHeaderValue (Bytes.ofString session.referer) &&
          isHeaderValue (Bytes.ofString session.csrfToken) then
        .ok (((headers.insert cookieName (Bytes.ofString session.cookie)).insert refererName
          (Bytes.ofString session.referer)).insert csrfName (Bytes.ofString session.csrfToken))
      else .error (.invalidHeader badValue) := by
  simp only [sessionHeaders, headerValue]
  cases session.isAuthenticated <;> cases isHeaderValue (Bytes.ofString session.cookie) <;>
    cases isHeaderValue (Bytes.ofString session.referer) <;>
    cases isHeaderValue (Bytes.ofString session.csrfToken) <;> rfl

/-- Headers of which a dump tells the same. -/
def DumpedAlike (first second : Headers) : Prop := first.shown = second.shown

theorem sessionHeaders_alike {first second : Session} (same : first.Alike second)
    (headers : Headers) :
    SameOutcome DumpedAlike (sessionHeaders first headers) (sessionHeaders second headers) := by
  rw [sessionHeaders_eq, sessionHeaders_eq, same.isAuthenticated, same.cookie, same.referer,
    same.csrfToken]
  split
  · exact .given rfl
  · split
    · refine .given ?_
      simp only [DumpedAlike, Headers.insert, Headers.shown_replaceAll,
        Headers.shownValues_secret isSecret_cookie, Headers.shownValues_secret isSecret_csrf]
    · exact .failed _

theorem requestHeaders_alike {first second : Request} (same : first.Alike second) :
    requestHeaders first = requestHeaders second := by
  have headers : first.headers = second.headers := (congrArg Request.headers same.rest :)
  rw [requestHeaders, requestHeaders, same.contentType, headers]

theorem headers_alike {first second : Connection} (same : first.Alike second) (url : Url)
    {request request' : Request} (requests : request.Alike request')
    {session session' : Session} (sessions : session.Alike session') :
    SameOutcome DumpedAlike (first.headers url request session)
      (second.headers url request' session') := by
  obtain ⟨_, user, _, _⟩ := same
  rw [Connection.headers, Connection.headers, requestHeaders_alike requests]
  cases one : first.credentials with
  | basic username password =>
      cases other : second.credentials with
      | session => rw [one, other] at user; cases user
      | basic username' password' =>
          rw [one, other] at user
          cases user
          refine .given ?_
          simp only [DumpedAlike, Headers.shown_extend, Headers.shown_append,
            Headers.shownValues_secret isSecret_authorization]
  | session =>
      cases other : second.credentials with
      | basic username' password' => rw [one, other] at user; cases user
      | session =>
          refine SameOutcome.bind (sessionHeaders_alike sessions _) fun headers headers' equal => ?_
          refine .given ?_
          rw [DumpedAlike, Headers.shown_extend, Headers.shown_extend, equal]

/-- What a dump tells of a message does not depend on the secrets that go with it. -/
theorem message_alike {first second : Connection} (same : first.Alike second)
    {request request' : Request} (requests : request.Alike request')
    {session session' : Session} (sessions : session.Alike session') :
    SameOutcome Message.Alike (first.message request session)
      (second.message request' session') := by
  have method : request.method = request'.method := (congrArg Request.method requests.rest :)
  have path : request.path = request'.path := (congrArg Request.path requests.rest :)
  have id : request.id = request'.id := (congrArg Request.id requests.rest :)
  have params : request.params = request'.params := (congrArg Request.params requests.rest :)
  rw [Connection.message, Connection.message, same.endpoint, path, id, params]
  refine SameOutcome.bind (SameOutcome.refl (fun _ => rfl) _) ?_
  rintro url _ rfl
  refine SameOutcome.bind (headers_alike same url requests sessions) fun _ _ equal => ?_
  cases hasHost url with
  | false => exact .failed _
  | true => exact .given ⟨method, rfl, equal, requests.body⟩

theorem requestDump_alike {first second : Connection} (same : first.Alike second)
    {message message' : Message} (messages : message.Alike message') :
    first.requestDump message = second.requestDump message' := by
  rw [Connection.requestDump, Connection.requestDump, render, render, messages.method,
    messages.url, same.verbosity, Headers.headerLines_congr messages.headers, messages.body]

theorem replyDump_alike {first second : Connection} (same : first.Alike second)
    {reply reply' : Reply} (replies : reply.Alike reply') :
    first.replyDump reply = second.replyDump reply' := by
  rw [Connection.replyDump, Connection.replyDump, render, render, replies.status,
    same.verbosity, Headers.headerLines_congr replies.headers.shown, replies.body]

theorem withDefaults_alike {first second : Headers} (same : DumpedAlike first second) :
    DumpedAlike (withDefaults first) (withDefaults second) := by
  have agents : first.values userAgentName = second.values userAgentName := by
    rw [← Headers.values_shown isSecret_userAgent, same, Headers.values_shown isSecret_userAgent]
  rw [withDefaults, withDefaults, agents]
  split
  · rw [DumpedAlike, Headers.shown_append, Headers.shown_append, same]
  · exact same

/-! ### Logins -/

section

open Json

theorem isReadable_loginBody (username password : String) :
    (Tree.ofValue (loginBody username password)).IsReadable := by
  have depth : (Tree.ofValue (loginBody username password)).depth = 2 := rfl
  refine ⟨by rw [depth]; decide, ?_⟩
  simp only [loginBody, loginServices, List.map_cons, List.map_nil, Tree.ofValue, Tree.ofNamed,
    Tree.ofElements, Tree.value?, memberValues?, elementValues?, Scalar.value?, writtenName,
    string?_writtenPieces, Option.map_some, Option.bind_eq_bind, Option.bind_some, pure,
    Option.isSome_some]

theorem blind_loginBody (username password password' : String) :
    (Tree.ofValue (loginBody username password)).blind =
      (Tree.ofValue (loginBody username password')).blind := by
  have secret : isSecretMember "password" = true := by
    rw [isSecretMember, Text.sameIgnoringCase, Text.asciiLower_eq, Text.asciiLower_eq]
    decide
  simp only [loginBody, Tree.ofValue, Tree.ofNamed, Tree.blind, blindMembers,
    isSecret_writtenName, secret, if_true, Tree.conceal]

/-- A login has a body, and the body is dumped. -/
theorem bodyText_loginRequest (username password : String) :
    bodyText (loginRequest username password).body.content? =
      "\n\n" ++ redactBody (Tree.ofValue (loginBody username password)).bytes := by
  have content : (loginRequest username password).body.content? =
      some (Bytes.ofString (loginBody username password).compact) := rfl
  have filled : (Tree.ofValue (loginBody username password)).bytes.isEmpty = false := by
    rw [loginBody, Tree.ofValue, Tree.bytes, Tree.chars, blankChars, List.map_nil, List.nil_append,
      Bytes.ofChars_cons_ascii (by decide)]
    rfl
  rw [content, ← bytes_ofValue, bodyText, filled, if_neg Bool.false_ne_true]

/-- The dump of a login does not tell its password. -/
theorem loginRequest_alike (username password password' : String) :
    (loginRequest username password).Alike (loginRequest username password') := by
  constructor
  case rest => simp only [loginRequest, Request.withJson, Request.withBody]
  case contentType =>
    simp only [loginRequest, Request.withJson, Request.withBody, Body.ofJson, Body.contentType?]
  case body =>
    rw [bodyText_loginRequest, bodyText_loginRequest,
      redactBody_alike (blind_loginBody username password password')
        (isReadable_loginBody username password) (isReadable_loginBody username password')]

end

/-! ### Exchanges -/

/-- Deliveries that are the same but for tokens in the cookies that they set. -/
inductive Delivery.Alike : Delivery → Delivery → Prop
  | same (delivery : Delivery) : Delivery.Alike delivery delivery
  | answered (status : Nat) {headers headers' : Headers} (same : headers.SameButTokens headers')
      (body : Bytes) :
      Delivery.Alike (.answered status headers body) (.answered status headers' body)

variable {World : Type}

/-- Networks that answer messages alike, where these may differ in what no dump shows. -/
def Network.Alike (first second : Network World) : Prop :=
  ∀ world message message', Message.Alike message message' →
    Delivery.Alike (first world message).1 (second world message').1 ∧
      (first world message).2 = (second world message').2

/-- Traffic that was dumped alike, and left its network in one state. -/
structure Traffic.Alike (first second : Traffic World) : Prop where
  world : first.world = second.world
  dumps : first.dumps = second.dumps

structure Sent.Alike (first second : Sent World) : Prop where
  outcome : SameOutcome Reply.Alike first.outcome second.outcome
  fires : first.fires = second.fires
  traffic : first.traffic.Alike second.traffic

theorem outcome_alike {first second : Connection} (same : first.Alike second) (url : String)
    (cancellation : Cancellation) {delivery delivery' : Delivery}
    (deliveries : delivery.Alike delivery') :
    SameOutcome Reply.Alike (first.outcome url cancellation delivery).1
        (second.outcome url cancellation delivery').1 ∧
      (first.outcome url cancellation delivery).2 =
        (second.outcome url cancellation delivery').2 := by
  have itself (outcome : Except ClientError Reply) : SameOutcome Reply.Alike outcome outcome :=
    .refl (fun reply => ⟨rfl, .refl reply.headers, rfl⟩) outcome
  cases deliveries with
  | answered status headers body => exact ⟨.given ⟨rfl, headers, rfl⟩, rfl⟩
  | same =>
      cases delivery with
      | answered | unreachable | broken => exact ⟨itself _, rfl⟩
      | silent =>
          simp only [Connection.outcome, same.timeout]
          exact ⟨itself _, trivial⟩
      | abandoned =>
          cases cancellation <;> simp only [Connection.outcome, same.timeout] <;>
            exact ⟨itself _, trivial⟩

/-- The dump of a reply, if there is one. -/
def replyDumps (connection : Connection) : Except ClientError Reply → List String
  | .ok reply => [connection.replyDump reply]
  | .error _ => []

theorem replyDumps_alike {first second : Connection} (same : first.Alike second)
    {outcome outcome' : Except ClientError Reply}
    (outcomes : SameOutcome Reply.Alike outcome outcome') :
    replyDumps first outcome = replyDumps second outcome' := by
  cases outcomes with
  | failed error => rfl
  | given replies => rw [replyDumps, replyDumps, replyDump_alike same replies]

theorem deliver_eq (connection : Connection) (network : Network World) (traffic : Traffic World)
    (cancellation : Cancellation) {message : Message} (sendable : isSendable message.url = true)
    {delivery : Delivery} {world : World}
    (arrived : network traffic.world { message with headers := withDefaults message.headers } =
      (delivery, world))
    {outcome : Except ClientError Reply} {fires : Bool}
    (answered : connection.outcome message.url.toText cancellation delivery = (outcome, fires)) :
    connection.deliver network traffic cancellation message =
      ⟨outcome, fires, { traffic with
        world
        dumps := traffic.dumps ++ [connection.requestDump message] ++
          replyDumps connection outcome }⟩ := by
  simp only [Connection.deliver, if_pos sendable, arrived, answered]
  cases outcome <;> rfl

theorem deliver_alike {first second : Connection} (same : first.Alike second)
    {network network' : Network World} (networks : Network.Alike network network')
    {traffic traffic' : Traffic World} (traffics : traffic.Alike traffic')
    (cancellation : Cancellation) {message message' : Message}
    (messages : message.Alike message') :
    (first.deliver network traffic cancellation message).Alike
      (second.deliver network' traffic' cancellation message') := by
  have dumps : traffic.dumps ++ [first.requestDump message] =
      traffic'.dumps ++ [second.requestDump message'] := by
    rw [traffics.dumps, requestDump_alike same messages]
  have answers := networks traffic'.world
    { message with headers := withDefaults message.headers }
    { message' with headers := withDefaults message'.headers }
    ⟨messages.method, messages.url, withDefaults_alike messages.headers, messages.body⟩
  cases sendable : isSendable message'.url with
  | false =>
      rw [Connection.deliver, Connection.deliver, messages.url, sendable,
        if_neg Bool.false_ne_true, if_neg Bool.false_ne_true]
      exact ⟨.failed _, rfl, traffics.world, dumps⟩
  | true =>
      cases arrived : network traffic'.world
        { message with headers := withDefaults message.headers } with | mk delivery world =>
      cases arrived' : network' traffic'.world
        { message' with headers := withDefaults message'.headers } with | mk delivery' world' =>
      rw [arrived, arrived'] at answers
      have answered := outcome_alike same message'.url.toText cancellation answers.1
      cases ended : first.outcome message'.url.toText cancellation delivery with
        | mk outcome fires =>
      cases ended' : second.outcome message'.url.toText cancellation delivery' with
        | mk outcome' fires' =>
      rw [ended, ended'] at answered
      rw [deliver_eq first network traffic cancellation (by rw [messages.url, sendable])
          (by rw [traffics.world, arrived]) (by rw [messages.url, ended]),
        deliver_eq second network' traffic' cancellation sendable arrived' ended']
      exact ⟨answered.1, answered.2, answers.2, by
        simp only [dumps, replyDumps_alike same answered.1]⟩

theorem send_alike {first second : Connection} (same : first.Alike second)
    {network network' : Network World} (networks : Network.Alike network network')
    {traffic traffic' : Traffic World} (traffics : traffic.Alike traffic')
    {request request' : Request} (requests : request.Alike request')
    {session session' : Session} (sessions : session.Alike session') :
    (first.send network traffic request session).Alike
      (second.send network' traffic' request' session') := by
  have cancellation : request.cancellation = request'.cancellation :=
    (congrArg Request.cancellation requests.rest :)
  have cancelled : request.isCancelled false = request'.isCancelled false := by
    rw [Request.isCancelled, Request.isCancelled, cancellation]
  cases live : request'.isCancelled false with
  | true =>
      rw [Connection.send_cancelled (cancelled.trans live), Connection.send_cancelled live]
      exact ⟨.failed _, rfl, traffics⟩
  | false =>
      have messages := message_alike same requests sessions
      generalize written : first.message request session = message at messages
      generalize written' : second.message request' session' = message' at messages
      cases messages with
      | failed error =>
          rw [Connection.send_unwritten (cancelled.trans live) written,
            Connection.send_unwritten live written']
          exact ⟨.failed _, rfl, traffics⟩
      | given messages =>
          rw [Connection.send_written (cancelled.trans live) written,
            Connection.send_written live written', cancellation]
          exact deliver_alike same networks traffics _ messages

end Transport

end ClusterRest
