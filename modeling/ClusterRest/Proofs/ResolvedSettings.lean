import ClusterRest.CommandLine.Settings
import ClusterRest.Proofs.Outcomes

/-!
Settings of a client, field by field. Main statement: the options of a command line, the profile
that they choose, the environment, the keyring and the defaults are asked for each setting in a
fixed order, and the first that gives one decides.
-/

namespace ClusterRest

/-! ### Outcomes -/

section

variable {ε ε' α β : Type}

/-- How a resolution ends, apart from the remarks made on the way. -/
def outcomeOf (resolution : ExceptT ε (StateM (List Warning)) α) (warnings : List Warning) :
    Except ε α :=
  (resolution.run.run warnings).1

theorem outcomeOf_adapt (resolution : ExceptT ε (StateM (List Warning)) α) (change : ε → ε')
    (warnings : List Warning) :
    outcomeOf (resolution.adapt change) warnings =
      (outcomeOf resolution warnings).mapError change := rfl

theorem outcomeOf_map (resolution : ExceptT ε (StateM (List Warning)) α) (change : α → β)
    (warnings : List Warning) :
    outcomeOf (do return change (← resolution)) warnings =
      (outcomeOf resolution warnings).map change := by
  simp only [outcomeOf, ExceptT.run_bind, StateT.run_bind]
  rcases StateT.run (ExceptT.run resolution) warnings with ⟨value | error, after⟩ <;> rfl

end

theorem bind_nonempty (text : Option String) : text.bind nonempty = text.filter (· ≠ "") := by
  cases text with
  | none => rfl
  | some text => by_cases empty : text = "" <;> simp [nonempty, Option.filter, empty]

/-! ### From a profile to settings -/

namespace Profile

/-- The settings that a profile gives, without the remarks on them. -/
def settings (profile : Profile) (name : String) (defaults : Defaults) (host : Host) :
    Except ConfigError ClientConfig := do
  checkEndpoint profile.endpoint
  let username ← profile.resolveUsername name host
  let password ← profile.resolvePassword name host
  let timeout ← parseTimeout (profile.timeout.getD defaults.timeout)
  let tls ← profile.tlsConfig defaults
  return {
    endpoint := profile.endpoint
    username
    password
    group := profile.group.getD ""
    authMode := .ofRaw (profile.authMode.getD defaults.authMode)
    tls
    timeout
    volumesPath := profile.volumesPath.getD ClientConfig.standardVolumesPath
    volumesPathPermissions := profile.volumesPathPermissions.getD ClientConfig.standardPermissions
    ignoreUnresolvableHosts := profile.ignoreUnresolvableHosts.getD false
    verbosity := .ofRaw (profile.verbosity.getD defaults.verbosity) }

theorem outcomeOf_resolve (profile : Profile) (name : String) (defaults : Defaults) (host : Host)
    (warnings : List Warning) :
    outcomeOf (profile.resolve name defaults host) warnings =
      profile.settings name defaults host := by
  rw [resolve, settings]
  cases checkEndpoint profile.endpoint with
  | error error => rfl
  | ok _ =>
      cases profile.resolveUsername name host with
      | error error => rfl
      | ok username =>
          cases profile.resolvePassword name host with
          | error error => rfl
          | ok password =>
              cases parseTimeout (profile.timeout.getD defaults.timeout) with
              | error error => rfl
              | ok timeout =>
                  cases profile.tlsConfig defaults with
                  | error error => rfl
                  | ok tls => rfl

section

variable {profile : Profile} {name : String} {defaults : Defaults} {host : Host}

theorem checkEndpoint_eq_ok {endpoint : String} :
    checkEndpoint endpoint = .ok () ↔
      Text.isAllBlank endpoint = false ∧ ∃ url, Url.parse endpoint = .ok url := by
  rw [checkEndpoint]
  cases Text.isAllBlank endpoint <;> cases Url.parse endpoint <;> simp

/-- A credential from the first source that has one. -/
def credential (name : String) (source : Option String) : Except ConfigError String :=
  match source with
  | some text => .ok text
  | none => .error (.noCredentials name)

theorem credential_eq_ok {source : Option String} {text : String} :
    credential name source = .ok text ↔ source = some text := by
  cases source <;> simp [credential]

theorem resolveUsername_eq (profile : Profile) (name : String) (host : Host) :
    profile.resolveUsername name host =
      credential name (profile.username.filter (· ≠ "") <|>
        host.environment.find? "ONEFS_USERNAME") := by
  rw [← bind_nonempty]
  rfl

theorem resolvePassword_eq (profile : Profile) (name : String) (host : Host) :
    profile.resolvePassword name host =
      credential name ((host.environment.find? "ONEFS_PASSWORD").filter (· ≠ "") <|>
        host.keyring (name ++ "/password") <|> profile.password) := by
  rw [← bind_nonempty]
  rfl

/-- The version of a field, or the standard one where the field is not set. -/
def VersionOf (standard : TlsVersion) (field : String) (raw : Option String)
    (version : TlsVersion) : Prop :=
  match raw with
  | some raw => TlsVersion.parse field raw = .ok version
  | none => version = standard

theorem tlsVersionOr_eq_ok {standard version : TlsVersion} {field : String} {raw : Option String} :
    tlsVersionOr standard field raw = .ok version ↔ VersionOf standard field raw version := by
  cases raw with
  | none => simp [tlsVersionOr, VersionOf, eq_comm]
  | some raw => exact Iff.rfl

/-- A list of suites has to name one. -/
def NamesSuite (suites : Option (List String)) : Prop :=
  ∀ listed ∈ suites, ∃ suite ∈ listed, Text.isAllBlank suite = false

theorem trimmedSuites_eq_ok {suites trimmed : Option (List String)} :
    trimmedSuites suites = .ok trimmed ↔
      NamesSuite suites ∧ trimmed = suites.map (·.map Text.trim) := by
  cases suites with
  | none =>
      have named : NamesSuite none := fun _ member => nomatch member
      rw [trimmedSuites, Option.map_none, Except.ok.injEq, eq_comm, and_iff_right named]
  | some listed =>
      have named : NamesSuite (some listed) ↔ listed.all Text.isAllBlank = false := by
        simp [NamesSuite]
      rw [named, trimmedSuites, Option.map_some]
      cases listed.all Text.isAllBlank with
      | true => simp
      | false => simp [eq_comm]

/-- The TLS policy of a profile. -/
structure GivesTls (profile : Profile) (defaults : Defaults) (tls : TlsConfig) : Prop where
  verification : tls.verification =
    if profile.insecure.getD defaults.insecure then .none
    else profile.caCert.elim .systemRoots .authority
  minVersion : VersionOf .tls12 "min_tls_version" profile.minTlsVersion tls.minVersion
  maxVersion : VersionOf .tls13 "max_tls_version" profile.maxTlsVersion tls.maxVersion
  inOrder : tls.minVersion.isAtMost tls.maxVersion = true
  suite : NamesSuite profile.cipherSuites
  cipherSuites : tls.cipherSuites = profile.cipherSuites.map (·.map Text.trim)

theorem tlsConfig_eq_ok {tls : TlsConfig} :
    profile.tlsConfig defaults = .ok tls ↔ profile.GivesTls defaults tls := by
  have verified : profile.verification defaults =
      if profile.insecure.getD defaults.insecure then .none
      else profile.caCert.elim .systemRoots .authority := by
    rw [verification]
    cases profile.caCert <;> rfl
  rw [tlsConfig]
  constructor
  · intro ok
    obtain ⟨least, leastOk, ok⟩ := bind_eq_ok.mp ok
    obtain ⟨greatest, greatestOk, ok⟩ := bind_eq_ok.mp ok
    cases order : least.isAtMost greatest with
    | false => simp [order, bind, Except.bind, throw, throwThe, MonadExceptOf.throw] at ok
    | true =>
        rw [order] at ok
        obtain ⟨suites, suitesOk, ok⟩ := bind_eq_ok.mp ok
        cases ok
        obtain ⟨named, trimmed⟩ := trimmedSuites_eq_ok.mp suitesOk
        exact ⟨verified, tlsVersionOr_eq_ok.mp leastOk, tlsVersionOr_eq_ok.mp greatestOk, order,
          named, trimmed⟩
  · intro gives
    obtain ⟨decided, least, greatest, suites⟩ := tls
    obtain ⟨decided_eq, leastOk, greatestOk, order, named, trimmed⟩ := gives
    refine bind_eq_ok.mpr ⟨least, tlsVersionOr_eq_ok.mpr leastOk, ?_⟩
    refine bind_eq_ok.mpr ⟨greatest, tlsVersionOr_eq_ok.mpr greatestOk, ?_⟩
    simp only at order
    rw [order]
    refine bind_eq_ok.mpr ⟨suites, trimmedSuites_eq_ok.mpr ⟨named, trimmed⟩, ?_⟩
    rw [verified, ← decided_eq]
    rfl

/-- The errors of a profile that does not settle a client: a field that does not fit, or no
credentials. -/
def IsFault : ConfigError → Prop
  | .invalid _ _ | .noCredentials _ => True
  | .profileNotFound _ | .malformedFile _ | .unfit _ _ | .unusableFile _ => False

theorem isFault_checkEndpoint {endpoint : String} {error : ConfigError}
    (failed : checkEndpoint endpoint = .error error) : IsFault error := by
  rw [checkEndpoint] at failed
  split at failed
  · cases failed
    trivial
  · split at failed
    · cases failed
    · cases failed
      trivial

theorem isFault_credential {source : Option String} {error : ConfigError}
    (failed : credential name source = .error error) : IsFault error := by
  cases source with
  | some text => cases failed
  | none =>
      cases failed
      trivial

theorem isFault_parseTimeout {raw : String} {error : ConfigError}
    (failed : parseTimeout raw = .error error) : IsFault error := by
  rw [parseTimeout] at failed
  cases parsed : Duration.parse (Text.trim raw) with
  | ok duration => rw [parsed] at failed; cases failed
  | error cause =>
      rw [parsed] at failed
      cases failed
      trivial

theorem isFault_tlsVersionOr {standard : TlsVersion} {field : String} {raw : Option String}
    {error : ConfigError} (failed : tlsVersionOr standard field raw = .error error) :
    IsFault error := by
  cases raw with
  | none => cases failed
  | some raw =>
      rw [tlsVersionOr, TlsVersion.parse] at failed
      split at failed
      · cases failed
      · split at failed
        · cases failed
        · cases failed
          trivial

theorem isFault_trimmedSuites {suites : Option (List String)} {error : ConfigError}
    (failed : trimmedSuites suites = .error error) : IsFault error := by
  cases suites with
  | none => cases failed
  | some listed =>
      rw [trimmedSuites] at failed
      split at failed
      · cases failed
        trivial
      · cases failed

theorem isFault_tlsConfig {error : ConfigError}
    (failed : profile.tlsConfig defaults = .error error) : IsFault error := by
  rw [tlsConfig] at failed
  rcases bind_eq_error.mp failed with failed | ⟨least, _, failed⟩
  · exact isFault_tlsVersionOr failed
  rcases bind_eq_error.mp failed with failed | ⟨greatest, _, failed⟩
  · exact isFault_tlsVersionOr failed
  cases order : least.isAtMost greatest with
  | false =>
      rw [order] at failed
      cases failed
      trivial
  | true =>
      rw [order] at failed
      rcases bind_eq_error.mp failed with failed | ⟨suites, _, failed⟩
      · exact isFault_trimmedSuites failed
      · cases failed

theorem isFault_settings {error : ConfigError}
    (failed : profile.settings name defaults host = .error error) : IsFault error := by
  rw [settings, resolveUsername_eq, resolvePassword_eq] at failed
  rcases bind_eq_error.mp failed with failed | ⟨_, _, failed⟩
  · exact isFault_checkEndpoint failed
  rcases bind_eq_error.mp failed with failed | ⟨_, _, failed⟩
  · exact isFault_credential failed
  rcases bind_eq_error.mp failed with failed | ⟨_, _, failed⟩
  · exact isFault_credential failed
  rcases bind_eq_error.mp failed with failed | ⟨_, _, failed⟩
  · exact isFault_parseTimeout failed
  rcases bind_eq_error.mp failed with failed | ⟨_, _, failed⟩
  · exact isFault_tlsConfig failed
  · cases failed

/-- The settings that a profile gives. -/
structure Gives (profile : Profile) (name : String) (defaults : Defaults) (host : Host)
    (client : ClientConfig) : Prop where
  endpoint : client.endpoint = profile.endpoint
  address : checkEndpoint client.endpoint = .ok ()
  username : (profile.username.filter (· ≠ "") <|> host.environment.find? "ONEFS_USERNAME") =
    some client.username
  password : ((host.environment.find? "ONEFS_PASSWORD").filter (· ≠ "") <|>
    host.keyring (name ++ "/password") <|> profile.password) = some client.password
  group : client.group = profile.group.getD ""
  authMode : client.authMode = .ofRaw (profile.authMode.getD defaults.authMode)
  tls : profile.GivesTls defaults client.tls
  timeout : parseTimeout (profile.timeout.getD defaults.timeout) = .ok client.timeout
  volumesPath : client.volumesPath = profile.volumesPath.getD "/ifs/volumes"
  volumesPathPermissions :
    client.volumesPathPermissions = profile.volumesPathPermissions.getD "0777"
  ignoreUnresolvableHosts :
    client.ignoreUnresolvableHosts = profile.ignoreUnresolvableHosts.getD false
  verbosity : client.verbosity = .ofRaw (profile.verbosity.getD defaults.verbosity)

theorem settings_eq_ok {client : ClientConfig} :
    profile.settings name defaults host = .ok client ↔
      profile.Gives name defaults host client := by
  rw [settings, resolveUsername_eq, resolvePassword_eq]
  constructor
  · intro ok
    obtain ⟨_, address, ok⟩ := bind_eq_ok.mp ok
    obtain ⟨username, named, ok⟩ := bind_eq_ok.mp ok
    obtain ⟨password, known, ok⟩ := bind_eq_ok.mp ok
    obtain ⟨timeout, timed, ok⟩ := bind_eq_ok.mp ok
    obtain ⟨tls, secured, ok⟩ := bind_eq_ok.mp ok
    cases ok
    exact {
      endpoint := rfl
      address
      username := credential_eq_ok.mp named
      password := credential_eq_ok.mp known
      group := rfl
      authMode := rfl
      tls := tlsConfig_eq_ok.mp secured
      timeout := timed
      volumesPath := rfl
      volumesPathPermissions := rfl
      ignoreUnresolvableHosts := rfl
      verbosity := rfl }
  · intro gives
    obtain ⟨endpoint, address, username, password, group, authMode, tls, timeout, volumesPath,
      permissions, ignoring, verbosity⟩ := gives
    refine bind_eq_ok.mpr ⟨(), endpoint ▸ address, ?_⟩
    refine bind_eq_ok.mpr ⟨client.username, credential_eq_ok.mpr username, ?_⟩
    refine bind_eq_ok.mpr ⟨client.password, credential_eq_ok.mpr password, ?_⟩
    refine bind_eq_ok.mpr ⟨client.timeout, timeout, ?_⟩
    refine bind_eq_ok.mpr ⟨client.tls, tlsConfig_eq_ok.mpr tls, ?_⟩
    cases client
    subst endpoint group authMode volumesPath permissions ignoring verbosity
    rfl

end

end Profile

/-! ### Options over profiles -/

namespace CommandLine

theorem ofRaw_rawAuthMode (mode : AuthMode) : AuthMode.ofRaw (rawAuthMode mode) = mode := by
  cases mode <;> rfl

namespace Options

/-- The name of a profile: the one asked for, or else that of the default profile. -/
def selected (options : Options) (config : Config) : String :=
  (options.profile <|> config.defaultProfile).getD "default"

/-- The profile that a run uses, and its name: the selected one, or an empty one if none was asked
for and the options name an endpoint themselves. -/
inductive Uses (options : Options) (config : Config) : String → Profile → Prop where
  | found {profile : Profile} (present : config.find? (options.selected config) = some profile) :
      Uses options config (options.selected config) profile
  | bare (unasked : options.profile = none)
      (missing : config.find? (options.selected config) = none)
      (addressed : options.endpoint.isSome = true) :
      Uses options config "cli" (.ofEndpoint "")

/-- How the settings of a client follow from options, a profile with its name, and what lies
behind both. -/
structure Determines (options : Options) (name : String) (profile : Profile) (defaults : Defaults)
    (host : Host) (client : ClientConfig) : Prop where
  endpoint : client.endpoint = options.endpoint.getD profile.endpoint
  notBlank : Text.isAllBlank client.endpoint = false
  address : ∃ url, Url.parse client.endpoint = .ok url
  username : (options.username <|> profile.username.filter (· ≠ "") <|>
    host.environment.find? "ONEFS_USERNAME") = some client.username
  password : (options.password <|> (host.environment.find? "ONEFS_PASSWORD").filter (· ≠ "") <|>
    host.keyring (name ++ "/password") <|> profile.password) = some client.password
  group : client.group = profile.group.getD ""
  authMode : client.authMode =
    options.authMode.getD (.ofRaw (profile.authMode.getD defaults.authMode))
  verification : client.tls.verification =
    if options.insecure || profile.insecure.getD defaults.insecure then .none
    else profile.caCert.elim .systemRoots .authority
  minVersion : Profile.VersionOf .tls12 "min_tls_version" profile.minTlsVersion
    client.tls.minVersion
  maxVersion : Profile.VersionOf .tls13 "max_tls_version" profile.maxTlsVersion
    client.tls.maxVersion
  inOrder : client.tls.minVersion.isAtMost client.tls.maxVersion = true
  suite : Profile.NamesSuite profile.cipherSuites
  cipherSuites : client.tls.cipherSuites = profile.cipherSuites.map (·.map Text.trim)
  timeout : parseTimeout ((options.timeout <|> profile.timeout).getD defaults.timeout) =
    .ok client.timeout
  volumesPath : client.volumesPath = profile.volumesPath.getD "/ifs/volumes"
  volumesPathPermissions :
    client.volumesPathPermissions = profile.volumesPathPermissions.getD "0777"
  ignoreUnresolvableHosts :
    client.ignoreUnresolvableHosts = profile.ignoreUnresolvableHosts.getD false
  verbosity : client.verbosity =
    if 3 ≤ options.verbose then .high
    else .ofRaw (profile.verbosity.getD defaults.verbosity)

section

variable {options : Options} {config : Config} {name : String} {profile : Profile}
  {defaults : Defaults} {host : Host}

theorem overlay_username (named : ∀ username ∈ options.username, username ≠ "") :
    ((options.overlay profile).username.filter (· ≠ "") <|>
        host.environment.find? "ONEFS_USERNAME") =
      (options.username <|> profile.username.filter (· ≠ "") <|>
        host.environment.find? "ONEFS_USERNAME") := by
  rw [overlay]
  cases given : options.username with
  | none => rfl
  | some username =>
      have filled := named username given
      simp [Option.filter, filled]

theorem overlay_authMode (client : ClientConfig) :
    client.authMode = .ofRaw ((options.overlay profile).authMode.getD defaults.authMode) ↔
      client.authMode =
        options.authMode.getD (.ofRaw (profile.authMode.getD defaults.authMode)) := by
  rw [overlay]
  cases options.authMode with
  | none => rfl
  | some mode => simp [ofRaw_rawAuthMode]

theorem overlay_insecure :
    (options.overlay profile).insecure.getD defaults.insecure =
      (options.insecure || profile.insecure.getD defaults.insecure) := by
  rw [overlay]
  cases options.insecure <;> rfl

theorem determines_finish (named : ∀ username ∈ options.username, username ≠ "")
    {client : ClientConfig} (gives : (options.overlay profile).Gives name defaults host client) :
    options.Determines name profile defaults host (options.finish client) := by
  obtain ⟨notBlank, address⟩ := Profile.checkEndpoint_eq_ok.mp gives.address
  have tls := gives.tls
  have password : (options.password <|>
      (host.environment.find? "ONEFS_PASSWORD").filter (· ≠ "") <|>
        host.keyring (name ++ "/password") <|> profile.password) =
      some (options.password.getD client.password) := by
    have found := gives.password
    cases given : options.password with
    | none => simpa [overlay, given] using found
    | some password => rfl
  exact {
    endpoint := gives.endpoint
    notBlank
    address
    username := (overlay_username named).symm.trans gives.username
    password
    group := gives.group
    authMode := (overlay_authMode client).mp gives.authMode
    verification := by rw [← overlay_insecure]; exact tls.verification
    minVersion := tls.minVersion
    maxVersion := tls.maxVersion
    inOrder := tls.inOrder
    suite := tls.suite
    cipherSuites := tls.cipherSuites
    timeout := gives.timeout
    volumesPath := gives.volumesPath
    volumesPathPermissions := gives.volumesPathPermissions
    ignoreUnresolvableHosts := gives.ignoreUnresolvableHosts
    verbosity := by
      have raw := gives.verbosity
      simp only [finish, highVerbosityCount, raw]
      rfl }

theorem Determines.gives (named : ∀ username ∈ options.username, username ≠ "")
    {client : ClientConfig} (determines : options.Determines name profile defaults host client) :
    ∃ found, (options.overlay profile).Gives name defaults host found ∧
      options.finish found = client := by
  -- the password that is found before the options have their say
  obtain ⟨password, first, last⟩ : ∃ password,
      ((host.environment.find? "ONEFS_PASSWORD").filter (· ≠ "") <|>
        host.keyring (name ++ "/password") <|> (options.overlay profile).password) =
          some password ∧ options.password.getD password = client.password := by
    have found := determines.password
    rw [overlay]
    cases given : options.password with
    | none =>
        rw [given] at found
        exact ⟨client.password, by simpa using found, rfl⟩
    | some password =>
        rw [given] at found
        cases environment : (host.environment.find? "ONEFS_PASSWORD").filter (· ≠ "") <;>
          cases keyring : host.keyring (name ++ "/password") <;>
          exact ⟨_, rfl, Option.some.inj found⟩
  refine ⟨{ client with
    password
    verbosity := .ofRaw (profile.verbosity.getD defaults.verbosity) }, ?_, ?_⟩
  · exact {
      endpoint := determines.endpoint
      address := Profile.checkEndpoint_eq_ok.mpr ⟨determines.notBlank, determines.address⟩
      username := (overlay_username named).trans determines.username
      password := first
      group := determines.group
      authMode := (overlay_authMode client).mpr determines.authMode
      tls := {
        verification := by rw [overlay_insecure]; exact determines.verification
        minVersion := determines.minVersion
        maxVersion := determines.maxVersion
        inOrder := determines.inOrder
        suite := determines.suite
        cipherSuites := determines.cipherSuites }
      timeout := determines.timeout
      volumesPath := determines.volumesPath
      volumesPathPermissions := determines.volumesPathPermissions
      ignoreUnresolvableHosts := determines.ignoreUnresolvableHosts
      verbosity := rfl }
  · have verbosity := determines.verbosity
    cases client
    simp only [finish, highVerbosityCount] at verbosity last ⊢
    rw [last, verbosity]
    rfl

theorem chooseProfile_eq (options : Options) (config : Config) (configPath : String) :
    options.chooseProfile config configPath =
      match config.find? (options.selected config) with
      | some profile => .ok (options.selected config, profile)
      | none =>
        if options.profile.isSome then
          .error (.profileNotFound (options.selected config) configPath)
        else if options.endpoint.isNone then .error (.noConfig configPath)
        else .ok ("cli", .ofEndpoint "") := by
  have same : config.selectedName options.profile = options.selected config := rfl
  rw [chooseProfile, Config.profile, same]
  cases config.find? (options.selected config) <;> rfl

theorem outcomeOf_resolve (configPath : String) (warnings : List Warning) :
    outcomeOf (options.resolve config configPath host) warnings =
      (options.chooseProfile config configPath).bind fun (name, profile) =>
        (((options.overlay profile).settings name config.defaults host).mapError
          (Failure.ofConfigError configPath)).map options.finish := by
  rw [resolve]
  cases options.chooseProfile config configPath with
  | error failure => rfl
  | ok chosen =>
      obtain ⟨name, profile⟩ := chosen
      have finished := outcomeOf_map
        (((options.overlay profile).resolve name config.defaults host).adapt
          (Failure.ofConfigError configPath)) options.finish warnings
      rw [outcomeOf_adapt, Profile.outcomeOf_resolve] at finished
      exact finished

theorem chooseProfile_eq_ok {configPath : String} :
    options.chooseProfile config configPath = .ok (name, profile) ↔
      options.Uses config name profile := by
  rw [chooseProfile_eq]
  constructor
  · intro chosen
    cases found : config.find? (options.selected config) with
    | some profile =>
        rw [found] at chosen
        cases chosen
        exact .found found
    | none =>
        cases asked : options.profile with
        | some name => simp [found, asked] at chosen
        | none =>
            cases addressed : options.endpoint with
            | none => simp [found, asked, addressed] at chosen
            | some endpoint =>
                simp only [found, asked, addressed, Option.isSome_none, Option.isNone_some,
                  Bool.false_eq_true, if_false, Except.ok.injEq, Prod.mk.injEq] at chosen
                obtain ⟨rfl, rfl⟩ := chosen
                exact .bare asked found (by rw [addressed]; rfl)
  · intro uses
    cases uses with
    | found present => rw [present]
    | bare unasked missing addressed =>
        have present : options.endpoint.isNone = false := by
          rw [← Option.not_isSome, addressed]
          rfl
        simp [missing, unasked, present]

theorem chooseProfile_eq_error {configPath : String} {failure : Failure} :
    options.chooseProfile config configPath = .error failure ↔
      config.find? (options.selected config) = none ∧
        (options.profile.isSome = true ∧
            failure = .profileNotFound (options.selected config) configPath ∨
          options.profile = none ∧ options.endpoint = none ∧ failure = .noConfig configPath) := by
  rw [chooseProfile_eq]
  cases config.find? (options.selected config) <;> cases options.profile <;>
    cases options.endpoint <;> simp [eq_comm]

/-- A failure that comes after the choice of a profile tells of its content. -/
theorem failure_of_isFault {configPath : String} {error : ConfigError}
    (fault : Profile.IsFault error) :
    (∀ name path, Failure.ofConfigError configPath error ≠ .profileNotFound name path) ∧
      ∀ path, Failure.ofConfigError configPath error ≠ .noConfig path := by
  cases error with
  | invalid | noCredentials => constructor <;> simp [Failure.ofConfigError]
  | profileNotFound | malformedFile | unfit | unusableFile => exact absurd fault id

end

section

variable (options : Options) (config : Config) (configPath : String) (host : Host)
  (warnings : List Warning)

theorem outcomeOf_eq_error {failure : Failure}
    (unlisted : ∀ error, Profile.IsFault error → Failure.ofConfigError configPath error ≠ failure) :
    outcomeOf (options.resolve config configPath host) warnings = .error failure ↔
      options.chooseProfile config configPath = .error failure := by
  rw [outcomeOf_resolve]
  cases options.chooseProfile config configPath with
  | error failure => simp [Except.bind]
  | ok chosen =>
      obtain ⟨name, profile⟩ := chosen
      cases settled : (options.overlay profile).settings name config.defaults host with
      | ok client => simp [Except.bind, Except.map, mapError_ok, settled]
      | error error =>
          have other := unlisted error (Profile.isFault_settings settled)
          simpa [Except.bind, Except.map, mapError_error, settled] using other

theorem outcomeOf_eq_ok (named : ∀ username ∈ options.username, username ≠ "")
    {client : ClientConfig} :
    outcomeOf (options.resolve config configPath host) warnings = .ok client ↔
      ∃ name profile, options.Uses config name profile ∧
        options.Determines name profile config.defaults host client := by
  rw [outcomeOf_resolve]
  constructor
  · intro ok
    cases chosen : options.chooseProfile config configPath with
    | error failure => rw [chosen] at ok; cases ok
    | ok found =>
        obtain ⟨name, profile⟩ := found
        rw [chosen] at ok
        cases settled : (options.overlay profile).settings name config.defaults host with
        | error error => simp [Except.bind, Except.map, mapError_error, settled] at ok
        | ok found =>
            simp only [Except.bind, Except.map, mapError_ok, settled, Except.ok.injEq] at ok
            subst ok
            exact ⟨name, profile, chooseProfile_eq_ok.mp chosen,
              determines_finish named (Profile.settings_eq_ok.mp settled)⟩
  · rintro ⟨name, profile, uses, determines⟩
    obtain ⟨found, gives, finished⟩ := determines.gives named
    rw [chooseProfile_eq_ok.mpr uses]
    simp only [Except.bind, Except.map, mapError_ok, Profile.settings_eq_ok.mpr gives, finished]

end

/-- The options choose a profile and settle a client, or tell that there is none to choose. -/
theorem resolve_by_precedence (options : Options) (config : Config) (configPath : String)
    (host : Host) (warnings : List Warning)
    (named : ∀ username ∈ options.username, username ≠ "") :
    let ended := outcomeOf (options.resolve config configPath host) warnings
    (∀ name path, ended = .error (.profileNotFound name path) ↔
      options.profile = some name ∧ config.find? name = none ∧ path = configPath) ∧
    (∀ path, ended = .error (.noConfig path) ↔
      options.profile = none ∧ config.find? (config.defaultProfile.getD "default") = none ∧
        options.endpoint = none ∧ path = configPath) ∧
    ∀ client, ended = .ok client ↔
      ∃ name profile, options.Uses config name profile ∧
        options.Determines name profile config.defaults host client := by
  intro ended
  refine ⟨?_, ?_, ?_⟩
  · intro name path
    rw [outcomeOf_eq_error options config configPath host warnings
      fun error fault => (failure_of_isFault fault).1 name path, chooseProfile_eq_error, selected]
    cases options.profile with
    | none => simp
    | some asked =>
        have name_eq : (some asked <|> config.defaultProfile).getD "default" = asked := rfl
        simp only [name_eq, Option.isSome_some, true_and, Failure.profileNotFound.injEq,
          reduceCtorEq, false_and, or_false, Option.some.injEq]
        constructor
        · rintro ⟨missing, rfl, rfl⟩
          exact ⟨rfl, missing, rfl⟩
        · rintro ⟨rfl, missing, rfl⟩
          exact ⟨missing, rfl, rfl⟩
  · intro path
    rw [outcomeOf_eq_error options config configPath host warnings
      fun error fault => (failure_of_isFault fault).2 path, chooseProfile_eq_error, selected]
    cases options.profile <;> simp
  · intro client
    exact outcomeOf_eq_ok options config configPath host warnings named

/-- The one profile of a configuration, with a password that the keyring hides. -/
def labConfig : Config where
  defaultProfile := some "lab"
  defaults := .standard
  profiles := [("lab", { Profile.ofEndpoint "https://[::1]:8080" with
    username := some "admin"
    password := some "plain"
    timeout := some "45s"
    verbosity := some 1 })]

def labHost : Host where
  environment := [("ONEFS_PASSWORD", ""), ("ONEFS_USERNAME", "other")]
  keyring account := if account = "lab/password" then some "kept" else none

def rootOptions : Options where
  profile := none
  endpoint := none
  username := some "root"
  password := none
  authMode := some .session
  insecure := true
  timeout := none
  verbose := 3

def labClient : ClientConfig where
  endpoint := "https://[::1]:8080"
  username := "root"
  password := "kept"
  group := ""
  authMode := .session
  tls := ⟨.none, .tls12, .tls13, none⟩
  timeout := .ofSeconds 45
  volumesPath := "/ifs/volumes"
  volumesPathPermissions := "0777"
  ignoreUnresolvableHosts := false
  verbosity := .high

theorem resolve_by_precedence_keyring :
    (∀ username ∈ rootOptions.username, username ≠ "") ∧
      outcomeOf (rootOptions.resolve labConfig "config.toml" labHost) [] = .ok labClient ∧
      ∃ name profile, rootOptions.Uses labConfig name profile ∧
        rootOptions.Determines name profile labConfig.defaults labHost labClient := by
  have named : ∀ username ∈ rootOptions.username, username ≠ "" := by
    simp [rootOptions]
  have ended : outcomeOf (rootOptions.resolve labConfig "config.toml" labHost) [] =
      .ok labClient := by
    rfl
  exact ⟨named, ended,
    ((resolve_by_precedence rootOptions labConfig "config.toml" labHost [] named).2.2 _).mp ended⟩

end Options
end CommandLine
end ClusterRest
