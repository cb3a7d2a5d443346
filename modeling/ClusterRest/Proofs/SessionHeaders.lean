import ClusterRest.Proofs.DumpedRuns
import ClusterRest.Proofs.HeaderValues

/-!
Headers with which a session is sent. Main statement: a session that a login grants goes with every
request if its endpoint can stand in a header, and with none otherwise, although the login was sent
to that endpoint.
-/

namespace ClusterRest

/-! ### Text in header values -/

namespace Http

/-- Characters of text that can stand in a header value: no control but the tab. -/
def isValueChar (character : Char) : Bool :=
  (' ' ≤ character && character ≠ '\x7f') || character = '\t'

theorem all_encode (character : Char) :
    (String.utf8EncodeChar character).all isValueByte = isValueChar character := by
  by_cases ascii : character.toNat < 0x80
  · have all : ∀ code : Fin 128, isValueByte (.ofNat code) = isValueChar (Char.ofNat code) := by
      decide +kernel
    rw [Bytes.encode_ascii ascii, List.all_cons, List.all_nil, Bool.and_true]
    simpa using all ⟨character.toNat, ascii⟩
  · have beyond : 0x80 ≤ character.toNat := Nat.not_lt.mp ascii
    have bytes : (String.utf8EncodeChar character).all isValueByte = true := by
      refine List.all_eq_true.mpr fun byte member => ?_
      have least := UInt8.le_iff_toNat_le.mp (Bytes.le_of_mem_encode beyond member)
      have all : ∀ code : Fin 256, 0x80 ≤ code.val → isValueByte (.ofNat code) = true := by
        decide +kernel
      simpa using all ⟨byte.toNat, byte.toNat_lt⟩ least
    have printed : isValueChar character = true := by
      have space : ' ' ≤ character := Nat.le_trans (by decide) beyond
      have other : character ≠ '\x7f' := by
        rintro rfl
        exact absurd beyond (by decide)
      simp only [isValueChar, space, other, decide_true, ne_eq, not_false_eq_true, Bool.and_self,
        Bool.true_or]
    rw [bytes, printed]

theorem isHeaderValue_ofString (text : String) :
    isHeaderValue (Bytes.ofString text) = text.toList.all isValueChar := by
  rw [isHeaderValue, Bytes.ofString, Bytes.ofChars, List.all_flatMap]
  exact congrArg text.toList.all (funext all_encode)

end Http

/-! ### Sessions that logins grant -/

namespace Transport

open Http (Headers isValueChar isHeaderValue badValue)

/-- Headers in which a session stands, once under each name, and nothing else under these. -/
structure CarriesSession (headers : Headers) (session : Session) : Prop where
  cookie : headers.values cookieName = [Bytes.ofString session.cookie]
  referer : headers.values refererName = [Bytes.ofString session.referer]
  csrfToken : headers.values csrfName = [Bytes.ofString session.csrfToken]

theorem distinct_requestHeaders (request : Request) : (requestHeaders request).Distinct := by
  rw [requestHeaders]
  apply Headers.Distinct.extend
  cases request.body.contentType? with
  | none => exact Headers.distinct_empty
  | some contentType => exact Headers.distinct_empty.insert _

/-- Headers with those of a session in the place of others under the same names. -/
def withSession (session : Session) (headers : Headers) : Headers :=
  ((headers.insert cookieName (Bytes.ofString session.cookie)).insert refererName
    (Bytes.ofString session.referer)).insert csrfName (Bytes.ofString session.csrfToken)

theorem carriesSession_extend (first : Headers) {headers : Headers} (distinct : headers.Distinct)
    (session : Session) : CarriesSession (first.extend (withSession session headers)) session := by
  have distinct : (withSession session headers).Distinct :=
    ((distinct.insert _).insert _).insert _
  have cookie_ne_referer : cookieName ≠ refererName := by decide
  have cookie_ne_csrf : cookieName ≠ csrfName := by decide
  have referer_ne_csrf : refererName ≠ csrfName := by decide
  constructor <;> rw [Headers.values_extend distinct, withSession]
  · simp only [Headers.mem_names_insert, Headers.values_insert, cookie_ne_referer, cookie_ne_csrf,
      true_or, or_true, if_true, if_false]
  · simp only [Headers.mem_names_insert, Headers.values_insert, referer_ne_csrf, true_or, or_true,
      if_true, if_false]
  · simp only [Headers.mem_names_insert, Headers.values_insert, true_or, if_true]

section

variable {World : Type} {connection : Connection} {network : Network World}
  {username password : String} {traffic : Traffic World} {session : Session}

/-- Tokens come from the visible cookies of a reply that reports a new session. -/
theorem grantedTokens_eq_ok {reply : Reply} {tokens : SessionTokens}
    (granted : grantedTokens reply = .ok tokens) :
    SessionTokens.ofCookies? (setCookies reply) = some tokens := by
  rw [grantedTokens] at granted
  split at granted
  next created =>
    cases found : SessionTokens.ofCookies? (setCookies reply) with
    | none => rw [found] at granted; cases granted
    | some tokens' => rw [found] at granted; cases granted; rfl
  next other => split at granted <;> cases granted

/-- The session that a login grants names the endpoint as it is, and the rest of it can be sent. -/
theorem of_logIn
    (granted : (connection.logIn network username password traffic).outcome = .ok session) :
    session.referer = connection.endpoint ∧ SessionTokens.CanBeSent session := by
  rw [logIn_eq, answeredLogin] at granted
  cases answer : (connection.send network traffic (loginRequest username password) .empty).outcome
    with
  | error error => rw [answer] at granted; cases granted
  | ok reply =>
      rw [answer] at granted
      cases tokens : grantedTokens reply with
      | error error => simp only [tokens, Except.map, reduceCtorEq] at granted
      | ok found =>
          simp only [tokens, Except.map, Except.ok.injEq] at granted
          subst granted
          exact ⟨rfl, SessionTokens.canBeSent_ofTokens (grantedTokens_eq_ok tokens) _⟩

/-- With a session that is not empty, headers carry it, or fail with one of its texts. -/
theorem headers_of_session (bySession : connection.credentials = .session)
    (authenticated : session.isAuthenticated = true) (url : Url) (request : Request) :
    connection.headers url request session =
      if isHeaderValue (Bytes.ofString session.cookie) &&
          isHeaderValue (Bytes.ofString session.referer) &&
          isHeaderValue (Bytes.ofString session.csrfToken) then
        .ok ((userinfoHeaders url).extend (withSession session (requestHeaders request)))
      else .error (.invalidHeader badValue) := by
  rw [Connection.headers, bySession]
  simp only [sessionHeaders_eq, authenticated, Bool.not_true, Bool.false_eq_true, if_false]
  split <;> rfl

/-- A session that a login grants goes with every request, just if its endpoint can stand in a
header. If it cannot, every request fails for that, unless its token has fired before. -/
theorem headers_of_logIn (bySession : connection.credentials = .session)
    (granted : (connection.logIn network username password traffic).outcome = .ok session)
    (store : SessionStore) :
    let stored := (store.replace session).current
    (connection.endpoint.toList.all isValueChar = true → ∀ url request,
      ∃ headers, connection.headers url request stored = .ok headers ∧
        CarriesSession headers session) ∧
    (connection.endpoint.toList.all isValueChar = false → ∀ request,
      (∀ url, connection.headers url request stored = .error (.invalidHeader badValue)) ∧
      ∀ url, Endpoint.url connection.endpoint request.path request.id request.params = .ok url →
        ∀ traffic, connection.send network traffic request stored =
          ⟨.error (if request.isCancelled false then .cancelled else .invalidHeader badValue),
            false, traffic⟩) := by
  intro stored
  obtain ⟨referer, sendable⟩ := of_logIn granted
  have built (url : Url) (request : Request) :
      connection.headers url request stored =
        if connection.endpoint.toList.all isValueChar then
          .ok ((userinfoHeaders url).extend (withSession session (requestHeaders request)))
        else .error (.invalidHeader badValue) := by
    have authenticated : stored.isAuthenticated = true := sendable.isAuthenticated
    have cookie : isHeaderValue (Bytes.ofString stored.cookie) = true := sendable.cookie
    have csrfToken : isHeaderValue (Bytes.ofString stored.csrfToken) = true := sendable.csrfToken
    have named : stored.referer = connection.endpoint := referer
    rw [headers_of_session bySession authenticated, cookie, csrfToken, named,
      Http.isHeaderValue_ofString, Bool.true_and, Bool.and_true]
    rfl
  constructor
  · intro fits url request
    refine ⟨_, (built url request).trans (if_pos fits), ?_⟩
    exact carriesSession_extend _ (distinct_requestHeaders request) session
  · intro unfit request
    have failed (url : Url) :
        connection.headers url request stored = .error (.invalidHeader badValue) := by
      rw [built, unfit]
      rfl
    refine ⟨failed, fun url addressed traffic => ?_⟩
    cases live : request.isCancelled false with
    | true => exact Connection.send_cancelled live
    | false =>
        rw [if_neg Bool.false_ne_true]
        apply Connection.send_unwritten live
        rw [Connection.message, addressed]
        simp only [bind, Except.bind, failed]

end

/-- A network that grants a session to whoever asks. -/
def granting : Network Unit := fun world _ =>
  (.answered Http.created (Headers.empty.append setCookieName
    (Bytes.ofString "isisessid=one; path=/; HttpOnly")) [], world)

def plainConnection : Connection where
  endpoint := "http://[::1]:8080"
  credentials := .session
  verbosity := .low
  timeout := .ofSeconds 20

def plainSession : Session := ⟨"isisessid=one", "", "http://[::1]:8080", 0⟩

theorem headers_of_logIn_plain :
    (plainConnection.logIn granting "admin" "pw" (.start ())).outcome = .ok plainSession ∧
      ∃ headers, plainConnection.headers ⟨"http", "", none, none, none, .segments [""], none, none⟩
          (.get "/platform/1/jobs") (SessionStore.empty.replace plainSession).current =
        .ok headers ∧ CarriesSession headers plainSession := by
  have granted : (plainConnection.logIn granting "admin" "pw" (.start ())).outcome =
      .ok plainSession := by
    decide +kernel
  exact ⟨granted, (headers_of_logIn rfl granted .empty).1 (by decide) _ _⟩

/-- A connection whose endpoint ends in a line break, which addresses of requests do without. -/
def brokenConnection : Connection := { plainConnection with endpoint := "http://[::1]:8080\n" }

def brokenSession : Session := { plainSession with referer := "http://[::1]:8080\n" }

/-- A login is sent to an endpoint with a line break, and its session cannot be. -/
theorem headers_of_logIn_broken :
    (brokenConnection.logIn granting "admin" "pw" (.start ())).outcome = .ok brokenSession ∧
      (brokenConnection.send granting (.start ()) (.get "/platform/latest")
        (SessionStore.empty.replace brokenSession).current).outcome =
        .error (.invalidHeader badValue) := by
  decide +kernel

end Transport

end ClusterRest
