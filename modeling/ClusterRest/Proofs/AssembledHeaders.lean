import ClusterRest.Proofs.Outcomes
import ClusterRest.Proofs.RequestUrls
import ClusterRest.Proofs.SessionHeaders

/-!
Headers of a request, name by name. Main statement: under a name goes out the text of the session,
if the session has one for it, or else all that the caller gave, in order, or else what the
credentials and the body imply.
-/

namespace ClusterRest

open Http (Headers headerName? isHeaderValue badValue)

/-! ### Headers that a caller gives -/

namespace Request

/-- A request with headers added one by one, unless one of them is none. -/
def withEachHeader (request : Request) (calls : List (String × String)) :
    Except ClientError Request :=
  calls.foldlM (fun request call => request.withHeader call.1 call.2) request

/-- The entries of headers that are given as names and texts. -/
def headerEntries (calls : List (String × String)) : List (String × Bytes) :=
  calls.filterMap fun call => (headerName? call.1).map (·, Bytes.ofString call.2)

/-- What a caller gives a name: by one table if that has the name, and else one by one. -/
def givenValues (calls : List (String × String)) (table : List (String × Bytes)) (name : String) :
    List Bytes :=
  if name ∈ table.map Prod.fst then Headers.valuesOf table name
  else Headers.valuesOf (headerEntries calls) name

section

variable {request extended : Request} {calls : List (String × String)}
  {table : List (String × Bytes)} {name : String}

theorem withHeader_eq_ok {value : String} :
    request.withHeader name value = .ok extended ↔
      ∃ known, headerName? name = some known ∧ isHeaderValue (Bytes.ofString value) = true ∧
        extended = { request with
          headers := request.headers.append known (Bytes.ofString value) } := by
  rw [withHeader]
  cases headerName? name with
  | none => simp
  | some known =>
      simp only [Option.some.injEq, exists_eq_left']
      split
      next valid => simp [valid, eq_comm]
      next invalid => simp [invalid]

/-- Headers that are added one by one stand behind those that were there. -/
theorem withEachHeader_eq_ok (accepted : request.withEachHeader calls = .ok extended) :
    extended = { request with headers := request.headers.appendAll (headerEntries calls) } := by
  induction calls generalizing request with
  | nil =>
      cases accepted
      rfl
  | cons call calls ih =>
      rw [withEachHeader, List.foldlM_cons] at accepted
      obtain ⟨next, added, rest⟩ := bind_eq_ok.mp accepted
      obtain ⟨known, named, -, rfl⟩ := withHeader_eq_ok.mp added
      rw [ih rest, headerEntries, headerEntries, List.filterMap_cons, named]
      rfl

theorem givenValues_eq_nil :
    givenValues calls table name = [] ↔
      name ∉ table.map Prod.fst ∧ name ∉ (headerEntries calls).map Prod.fst := by
  rw [givenValues]
  split
  next listed => simp only [Headers.valuesOf_eq_nil, listed, not_true_eq_false, false_and]
  next unlisted => simp only [Headers.valuesOf_eq_nil, unlisted, not_false_eq_true, true_and]

/-- The headers of a request whose caller gave them all. -/
theorem values_withHeaders (bare : request.headers = .empty)
    (accepted : request.withEachHeader calls = .ok extended) :
    (extended.withHeaders (.ofList table)).headers.values name = givenValues calls table name ∧
      (name ∈ (extended.withHeaders (.ofList table)).headers.names ↔
        givenValues calls table name ≠ []) := by
  rw [withEachHeader_eq_ok accepted, withHeaders, bare]
  constructor
  · rw [Headers.values_extend (Headers.distinct_ofList table), Headers.values_ofList,
      Headers.values_appendAll, Headers.values_empty, List.nil_append, givenValues]
    simp only [Headers.mem_names_ofList]
  · rw [Headers.mem_names_extend, Headers.mem_names_ofList, Headers.mem_names_appendAll,
      or_iff_right (Headers.not_mem_names_empty name), ne_eq, givenValues_eq_nil, not_and_or,
      not_not, not_not]

end

end Request

/-! ### Headers that go out -/

namespace Transport

open Request (givenValues)

/-- What goes out under a name for lack of other values. -/
def impliedValues (credentials : Credentials) (body : Body) (name : String) : List Bytes :=
  if name = contentTypeName then (body.contentType?.map Bytes.ofString).toList
  else match credentials with
    | .basic username password =>
      if name = authorizationName then [basicValue username password] else []
    | .session => []

/-- The text of a session under a name, if the session is sent at all. -/
def sessionText? (credentials : Credentials) (session : Session) (name : String) : Option String :=
  if credentials = .session ∧ session.isAuthenticated = true then
    if name = cookieName then some session.cookie
    else if name = refererName then some session.referer
    else if name = csrfName then some session.csrfToken
    else none
  else none

/-- What goes out under a name, for a caller who gives values to names. -/
def assembledValues (credentials : Credentials) (session : Session) (body : Body)
    (given : String → List Bytes) (name : String) : List Bytes :=
  match sessionText? credentials session name with
  | some text => [Bytes.ofString text]
  | none => if given name = [] then impliedValues credentials body name else given name

section

variable {request : Request} {name : String}

theorem values_requestHeaders (distinct : request.headers.Distinct) :
    (requestHeaders request).values name =
      if name ∈ request.headers.names then request.headers.values name
      else if name = contentTypeName then (request.body.contentType?.map Bytes.ofString).toList
      else [] := by
  rw [requestHeaders, Headers.values_extend distinct]
  cases request.body.contentType? with
  | none => simp only [Headers.values_empty, Option.map_none, Option.toList_none, ite_self]
  | some contentType =>
      simp only [Headers.values_insert, Headers.values_empty, Option.map_some, Option.toList_some]

theorem mem_names_requestHeaders :
    name ∈ (requestHeaders request).names ↔
      name ∈ request.headers.names ∨
        name = contentTypeName ∧ request.body.contentType?.isSome = true := by
  rw [requestHeaders, Headers.mem_names_extend]
  cases request.body.contentType? with
  | none => simp [Headers.not_mem_names_empty]
  | some contentType => simp [Headers.mem_names_insert, Headers.not_mem_names_empty]

end

/-- Headers hold what is given, name by name. -/
structure Holds (headers : Headers) (given : String → List Bytes) : Prop where
  distinct : headers.Distinct
  values : ∀ name, headers.values name = given name
  named : ∀ name, name ∈ headers.names ↔ given name ≠ []

section

variable {connection : Connection} {request : Request} {session : Session} {name : String}
  {given : String → List Bytes} {url : Url} {headers : Headers}

theorem values_of_holds (holds : Holds request.headers given) (name : String) :
    (requestHeaders request).values name =
      if given name = [] then
        if name = contentTypeName then (request.body.contentType?.map Bytes.ofString).toList else []
      else given name := by
  rw [values_requestHeaders holds.distinct, holds.values]
  simp only [holds.named, ne_eq, ite_not]

/-- With a password, nothing of a session goes out. -/
theorem values_of_basic {username password : String} (holds : Holds request.headers given)
    (byPassword : connection.credentials = .basic username password)
    (anonymous : userinfo? url = none)
    (built : connection.headers url request session = .ok headers) :
    headers.values name =
      assembledValues connection.credentials session request.body given name := by
  have noUser : userinfoHeaders url = .empty := by rw [userinfoHeaders, anonymous]
  have noText : sessionText? (.basic username password) session name = none := if_neg nofun
  rw [Connection.headers, byPassword, noUser] at built
  cases built
  rw [Headers.values_extend (distinct_requestHeaders request), values_of_holds holds,
    assembledValues, byPassword, noText]
  simp only [mem_names_requestHeaders, holds.named, Headers.values_append, Headers.values_empty,
    impliedValues]
  by_cases ungiven : given name = []
  · by_cases isType : name = contentTypeName
    · subst isType
      have other : contentTypeName ≠ authorizationName := by decide
      cases request.body.contentType? with
      | none => simp [ungiven, other]
      | some contentType => simp [ungiven]
    · simp [ungiven, isType]
  · simp [ungiven]

theorem values_empty_extend (distinct : headers.Distinct) :
    (Headers.empty.extend headers).values name = headers.values name := by
  rw [Headers.values_extend distinct]
  split
  · rfl
  next unnamed => rw [Headers.values_empty, Headers.values_eq_nil unnamed]

/-- The texts of a session take the place of whatever was under their names. -/
theorem values_withSession (authenticated : session.isAuthenticated = true) :
    (withSession session headers).values name =
      match sessionText? .session session name with
      | some text => [Bytes.ofString text]
      | none => headers.values name := by
  have cookie_ne_referer : cookieName ≠ refererName := by decide
  have cookie_ne_csrf : cookieName ≠ csrfName := by decide
  have referer_ne_csrf : refererName ≠ csrfName := by decide
  rw [sessionText?, if_pos ⟨rfl, authenticated⟩, withSession]
  simp only [Headers.values_insert]
  by_cases isCookie : name = cookieName
  · simp [isCookie, cookie_ne_referer, cookie_ne_csrf]
  by_cases isReferer : name = refererName
  · simp [isReferer, cookie_ne_referer.symm, referer_ne_csrf]
  by_cases isCsrf : name = csrfName
  · simp [isCsrf, cookie_ne_csrf.symm, referer_ne_csrf.symm]
  · simp [isCookie, isReferer, isCsrf]

theorem values_of_session (holds : Holds request.headers given)
    (bySession : connection.credentials = .session) (anonymous : userinfo? url = none)
    (built : connection.headers url request session = .ok headers) :
    headers.values name =
      assembledValues connection.credentials session request.body given name := by
  have noUser : userinfoHeaders url = .empty := by rw [userinfoHeaders, anonymous]
  have content := distinct_requestHeaders request
  have own : (requestHeaders request).values name =
      if given name = [] then impliedValues .session request.body name else given name :=
    values_of_holds holds name
  rw [assembledValues, bySession]
  cases authenticated : session.isAuthenticated with
  | true =>
      rw [headers_of_session bySession authenticated, noUser] at built
      split at built
      · cases built
        have distinct : (withSession session (requestHeaders request)).Distinct :=
          ((content.insert _).insert _).insert _
        rw [values_empty_extend distinct, values_withSession authenticated, own]
      · cases built
  | false =>
      have noText : sessionText? .session session name = none := by
        rw [sessionText?, authenticated]
        exact if_neg nofun
      have alone : connection.headers url request session =
          .ok (Headers.empty.extend (requestHeaders request)) := by
        rw [Connection.headers, bySession, noUser]
        simp only [sessionHeaders_eq, authenticated]
        rfl
      rw [alone] at built
      cases built
      rw [values_empty_extend content, own, noText]

theorem holds_withHeaders {start called : Request} {calls : List (String × String)}
    (bare : start.headers = .empty) (accepted : start.withEachHeader calls = .ok called)
    (table : List (String × Bytes)) :
    Holds (called.withHeaders (.ofList table)).headers (givenValues calls table) where
  distinct := by
    rw [Request.withEachHeader_eq_ok accepted, bare]
    exact (Headers.distinct_empty.appendAll _).extend _
  values _ := (Request.values_withHeaders bare accepted).1
  named _ := (Request.values_withHeaders bare accepted).2

theorem exists_headers (connection : Connection) (url : Url) (request : Request)
    (session : Session) :
    (∃ headers, connection.headers url request session = .ok headers) ↔
      (connection.credentials = .session → session.isAuthenticated = true →
        isHeaderValue (Bytes.ofString session.cookie) = true ∧
          isHeaderValue (Bytes.ofString session.referer) = true ∧
          isHeaderValue (Bytes.ofString session.csrfToken) = true) := by
  cases credentials : connection.credentials with
  | basic username password =>
      rw [Connection.headers, credentials]
      exact iff_of_true ⟨_, rfl⟩ fun other => by cases other
  | session =>
      cases authenticated : session.isAuthenticated with
      | true =>
          rw [headers_of_session credentials authenticated]
          split
          next valid => simpa [and_assoc] using valid
          next invalid => simpa [and_assoc] using invalid
      | false =>
          rw [Connection.headers, credentials]
          simp only [sessionHeaders_eq, authenticated]
          exact iff_of_true ⟨_, rfl⟩ fun _ other => by cases other

end

/-! ### Addresses without a user -/

section

variable {endpoint path id : String} {params : Params} {server url : Url}

/-- Under the endpoint of a web server that names no user, no address names one. -/
theorem userinfo?_url (parsed : Url.parse endpoint = .ok server) (web : Url.IsWeb server.scheme)
    (anonymous : userinfo? server = none)
    (addressed : Endpoint.url endpoint path id params = .ok url) : userinfo? url = none := by
  obtain ⟨tail, written, closed⟩ :=
    Endpoint.joinChars_eq endpoint.toList path.toList id.toList params
  have joined : Url.parseChars (endpoint.toList ++ tail) = .ok url := by
    rw [Endpoint.url] at addressed
    cases read : Url.parse (Endpoint.join endpoint path id params) with
    | error cause => simp only [read] at addressed; cases addressed
    | ok found =>
        simp only [read] at addressed
        cases addressed
        rwa [Url.parse, Endpoint.join, String.toList_ofList, written] at read
  have same := Url.parseChars_append closed parsed web joined
  rw [userinfo?, same.username, same.password]
  exact anonymous

end

theorem message_eq_ok {connection : Connection} {request : Request} {session : Session}
    {message : Message} (written : connection.message request session = .ok message) :
    ∃ url, Endpoint.url connection.endpoint request.path request.id request.params = .ok url ∧
      connection.headers url request session = .ok message.headers := by
  rw [Connection.message] at written
  obtain ⟨url, addressed, written⟩ := bind_eq_ok.mp written
  obtain ⟨headers, built, written⟩ := bind_eq_ok.mp written
  refine ⟨url, addressed, ?_⟩
  cases hosted : hasHost url with
  | false => rw [hosted] at written; cases written
  | true =>
      rw [hosted] at written
      cases written
      exact built

/-- A message to an address without a user carries under each name what the session, the caller, or
the credentials and the body have for it, in this order. -/
theorem values_of_message {connection : Connection} {request : Request} {session : Session}
    {message : Message} {given : String → List Bytes} (holds : Holds request.headers given)
    (anonymous : ∀ url, Endpoint.url connection.endpoint request.path request.id request.params =
      .ok url → userinfo? url = none)
    (written : connection.message request session = .ok message) (name : String) :
    message.headers.values name =
      assembledValues connection.credentials session request.body given name := by
  obtain ⟨url, addressed, built⟩ := message_eq_ok written
  have noUser := anonymous url addressed
  cases credentials : connection.credentials with
  | basic username password =>
      rw [← credentials]
      exact values_of_basic holds credentials noUser built
  | session =>
      rw [← credentials]
      exact values_of_session holds credentials noUser built

/-! ### Main statement -/

/-- Under an endpoint of a web server that names no user, each message carries under each name what
the session, the caller, or the credentials and the body have for it, in this order. Headers are
refused only for a session with a text that no header can hold. -/
theorem message_headers_by_name {connection : Connection} {server : Url}
    (parsed : Url.parse connection.endpoint = .ok server) (web : Url.IsWeb server.scheme)
    (anonymous : userinfo? server = none) {start called : Request}
    {calls : List (String × String)} (bare : start.headers = .empty)
    (accepted : start.withEachHeader calls = .ok called) (table : List (String × Bytes))
    (session : Session) :
    let request := called.withHeaders (.ofList table)
    (∀ url, (∃ headers, connection.headers url request session = .ok headers) ↔
      (connection.credentials = .session → session.isAuthenticated = true →
        isHeaderValue (Bytes.ofString session.cookie) = true ∧
          isHeaderValue (Bytes.ofString session.referer) = true ∧
          isHeaderValue (Bytes.ofString session.csrfToken) = true)) ∧
    ∀ message, connection.message request session = .ok message → ∀ name,
      message.headers.values name =
        assembledValues connection.credentials session start.body (givenValues calls table)
          name := by
  intro request
  refine ⟨fun url => exists_headers connection url request session, ?_⟩
  intro message written name
  have holds : Holds request.headers (givenValues calls table) :=
    holds_withHeaders bare accepted table
  have body : request.body = start.body := by
    simp only [request, Request.withEachHeader_eq_ok accepted, Request.withHeaders]
  rw [← body]
  apply values_of_message holds _ written
  intro url addressed
  exact userinfo?_url parsed web anonymous addressed

/-- A server that is named without a user. -/
def localHost8080 : Url where
  scheme := "http"
  username := ""
  password := none
  host := some (.ipv6 [0, 0, 0, 0, 0, 0, 0, 1])
  port := some 8080
  path := .segments [""]
  query := none
  fragment := none

/-- Headers under names that a session has a text for, and under some more than once. -/
def overlappingCalls : List (String × String) :=
  [("Cookie", "mine"), ("Tag", "one"), ("tag", "two"), ("Accept", "text/html")]

def overlappingTable : List (String × Bytes) :=
  [("accept", Bytes.ofString "first"), ("x-csrf-token", Bytes.ofString "mine"),
    ("accept", Bytes.ofString "second")]

def bareRequest : Request := (Request.post "/platform/1/jobs").withBody (.json [0x7b, 0x7d])

def overlappingRequest : Request :=
  { bareRequest with headers := ⟨[("cookie", [Bytes.ofString "mine"]),
    ("tag", [Bytes.ofString "one", Bytes.ofString "two"]),
    ("accept", [Bytes.ofString "text/html"])]⟩ }

def overlappingMessage : Message where
  method := "POST"
  url := { localHost8080 with path := .segments ["platform", "1", "jobs", ""] }
  headers := Headers.empty.extend
    (withSession plainSession (requestHeaders (overlappingRequest.withHeaders
      (.ofList overlappingTable))))
  body := some [0x7b, 0x7d]

theorem message_headers_by_name_overlapping :
    Url.parse plainConnection.endpoint = .ok localHost8080 ∧ Url.IsWeb localHost8080.scheme ∧
      userinfo? localHost8080 = none ∧
      bareRequest.headers = .empty ∧
      bareRequest.withEachHeader overlappingCalls = .ok overlappingRequest ∧
      plainConnection.message (overlappingRequest.withHeaders (.ofList overlappingTable))
        plainSession = .ok overlappingMessage ∧
      overlappingMessage.headers.values cookieName = [Bytes.ofString "isisessid=one"] ∧
      overlappingMessage.headers.values csrfName = [[]] ∧
      overlappingMessage.headers.values "tag" = [Bytes.ofString "one", Bytes.ofString "two"] ∧
      overlappingMessage.headers.values "accept" =
        [Bytes.ofString "first", Bytes.ofString "second"] ∧
      overlappingMessage.headers.values contentTypeName = [Bytes.ofString "application/json"] := by
  have parsed : Url.parse plainConnection.endpoint = .ok localHost8080 := by
    decide +kernel
  have web : Url.IsWeb localHost8080.scheme := .inl rfl
  have anonymous : userinfo? localHost8080 = none := by decide
  have accepted : bareRequest.withEachHeader overlappingCalls = .ok overlappingRequest := by
    -- with their names known, the calls are not evaluated once more for each comparison of names
    have cookie : headerName? "Cookie" = some "cookie" := by decide +kernel
    have tag : headerName? "Tag" = some "tag" ∧ headerName? "tag" = some "tag" := by decide +kernel
    have accept : headerName? "Accept" = some "accept" := by decide +kernel
    simp only [Request.withEachHeader, overlappingCalls, List.foldlM_cons, Request.withHeader,
      cookie, tag, accept]
    decide +kernel
  have written : plainConnection.message (overlappingRequest.withHeaders
      (.ofList overlappingTable)) plainSession = .ok overlappingMessage := by
    decide +kernel
  have values := (message_headers_by_name parsed web anonymous rfl accepted overlappingTable
    plainSession).2 overlappingMessage written
  refine ⟨parsed, web, anonymous, rfl, accepted, written, ?_, ?_, ?_, ?_, ?_⟩
  · exact (values cookieName).trans (by decide +kernel)
  · exact (values csrfName).trans (by decide +kernel)
  · exact (values "tag").trans (by decide +kernel)
  · exact (values "accept").trans (by decide +kernel)
  · exact (values contentTypeName).trans (by decide +kernel)

end Transport

end ClusterRest
