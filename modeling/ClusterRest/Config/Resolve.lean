import ClusterRest.ClientConfig
import ClusterRest.Config.Error
import ClusterRest.Duration.Reader
import ClusterRest.Text.Pieces
import ClusterRest.Url.Parser

/-! From a profile to the settings of a client: credentials, TLS policy, timeout. -/

namespace ClusterRest

/-- What a machine knows besides files: its environment variables, and the secrets of its keyring
by account. -/
structure Host where
  environment : Variables
  keyring : String → Option String

namespace Host

def usernameVariable : String := "ONEFS_USERNAME"
def passwordVariable : String := "ONEFS_PASSWORD"

/-- The keyring account of a profile. -/
def account (profileName : String) : String := profileName ++ "/password"

end Host

def nonempty (text : String) : Option String := if text.isEmpty then none else some text

namespace Profile

/-- The name of the profile unless that is empty, or else that of the environment. -/
def resolveUsername (profile : Profile) (name : String) (host : Host) :
    Except ConfigError String :=
  match (profile.username.bind nonempty) <|> host.environment.find? Host.usernameVariable with
  | some username => .ok username
  | none => .error (.noCredentials name)

/-- The password of the environment unless that is empty, or else that of the keyring, or else that
of the profile. -/
def resolvePassword (profile : Profile) (name : String) (host : Host) :
    Except ConfigError String :=
  match ((host.environment.find? Host.passwordVariable).bind nonempty)
      <|> host.keyring (Host.account name) <|> profile.password with
  | some password => .ok password
  | none => .error (.noCredentials name)

end Profile

open Text

/-- The number of a TLS version, which may have the protocol's name before it. -/
def bareTlsVersion (raw : String) : String :=
  let trimmed := trim raw
  trim ((afterStart? "TLSv" trimmed <|> afterStart? "TLS" trimmed).getD trimmed)

def TlsVersion.parse (field raw : String) : Except ConfigError TlsVersion :=
  let number := bareTlsVersion raw
  if number = TlsVersion.tls12.number then .ok .tls12
  else if number = TlsVersion.tls13.number then .ok .tls13
  else .error (.invalid field
    ("expected '" ++ TlsVersion.tls12.number ++ "' or '" ++ TlsVersion.tls13.number ++ "', got '"
      ++ number ++ "'"))

def parseTimeout (raw : String) : Except ConfigError Duration :=
  (Duration.parse (trim raw)).mapError fun error =>
    .invalid "timeout" ("'" ++ raw ++ "': " ++ error.message)

namespace Profile

def verification (profile : Profile) (defaults : Defaults) : Verification :=
  if profile.insecure.getD defaults.insecure then .none
  else match profile.caCert with
    | some path => .authority path
    | none => .systemRoots

/-- The version of a field, or a standard one where the field is not set. -/
def tlsVersionOr (standard : TlsVersion) (field : String) :
    Option String → Except ConfigError TlsVersion
  | some raw => TlsVersion.parse field raw
  | none => .ok standard

def trimmedSuites : Option (List String) → Except ConfigError (Option (List String))
  | none => .ok none
  | some suites =>
    if suites.all isAllBlank then .error (.invalid "cipher_suites" "must name at least one suite")
    else .ok (some (suites.map trim))

def tlsConfig (profile : Profile) (defaults : Defaults) : Except ConfigError TlsConfig := do
  let standard := TlsConfig.standard
  let minVersion ← tlsVersionOr standard.minVersion "min_tls_version" profile.minTlsVersion
  let maxVersion ← tlsVersionOr standard.maxVersion "max_tls_version" profile.maxTlsVersion
  if !minVersion.isAtMost maxVersion then
    throw (.invalid "min_tls_version" "minimum TLS version is newer than the maximum")
  let cipherSuites ← trimmedSuites profile.cipherSuites
  return ⟨profile.verification defaults, minVersion, maxVersion, cipherSuites⟩

/-- An endpoint has to be a URL. -/
def checkEndpoint (endpoint : String) : Except ConfigError Unit :=
  if isAllBlank endpoint then .error (.invalid "endpoint" "must not be empty")
  else match Url.parse endpoint with
    | .ok _ => .ok ()
    | .error error =>
      .error (.invalid "endpoint" ("invalid URL '" ++ endpoint ++ "': " ++ error.message))

/-- The settings of a client, with the remarks made on the way, which stay when it fails. -/
def resolve (profile : Profile) (name : String) (defaults : Defaults) (host : Host) :
    ExceptT ConfigError (StateM (List Warning)) ClientConfig := do
  checkEndpoint profile.endpoint
  let username ← profile.resolveUsername name host
  let password ← profile.resolvePassword name host
  let timeout ← parseTimeout (profile.timeout.getD defaults.timeout)
  let authMode := profile.authMode.getD defaults.authMode
  modify (· ++ AuthMode.warnings authMode)
  let tls ← profile.tlsConfig defaults
  let verbosity := profile.verbosity.getD defaults.verbosity
  modify (· ++ Verbosity.warnings verbosity)
  let config := ClientConfig.new profile.endpoint username password
  return { config with
    group := profile.group.getD config.group
    authMode := .ofRaw authMode
    tls
    timeout
    volumesPath := profile.volumesPath.getD config.volumesPath
    volumesPathPermissions := profile.volumesPathPermissions.getD config.volumesPathPermissions
    ignoreUnresolvableHosts := profile.ignoreUnresolvableHosts.getD config.ignoreUnresolvableHosts
    verbosity := .ofRaw verbosity }

end Profile

end ClusterRest
