import ClusterRest.Certificate.Pem
import ClusterRest.Certificate.Structure
import ClusterRest.ClientConfig
import ClusterRest.ClientError
import ClusterRest.Files
import ClusterRest.Text.Blank

/-! Whether a TLS policy can be set up. -/

namespace ClusterRest.Transport

structure CipherSuite where
  name : String
  version : TlsVersion
  deriving DecidableEq, Repr

/-- The suites that there are. -/
def knownSuites : List CipherSuite := [
  ⟨"TLS13_AES_256_GCM_SHA384", .tls13⟩,
  ⟨"TLS13_AES_128_GCM_SHA256", .tls13⟩,
  ⟨"TLS13_CHACHA20_POLY1305_SHA256", .tls13⟩,
  ⟨"TLS_ECDHE_ECDSA_WITH_AES_256_GCM_SHA384", .tls12⟩,
  ⟨"TLS_ECDHE_ECDSA_WITH_AES_128_GCM_SHA256", .tls12⟩,
  ⟨"TLS_ECDHE_ECDSA_WITH_CHACHA20_POLY1305_SHA256", .tls12⟩,
  ⟨"TLS_ECDHE_RSA_WITH_AES_256_GCM_SHA384", .tls12⟩,
  ⟨"TLS_ECDHE_RSA_WITH_AES_128_GCM_SHA256", .tls12⟩,
  ⟨"TLS_ECDHE_RSA_WITH_CHACHA20_POLY1305_SHA256", .tls12⟩]

def suiteNamed? (name : String) : Option CipherSuite :=
  knownSuites.find? fun suite => suite.name = Text.trim name

inductive TlsFault where
  | versionsInverted (least greatest : TlsVersion)
  | unknownSuite (name : String)
  | noSuites
  | suitesOutsideVersions
  | authorityUnread (path : String) (fault : FileFault)
  | authorityUnclear (fault : Pem.Fault)
  | authorityMissing
  | authorityMalformed
  | setupFailed
  deriving DecidableEq, Repr

def versionName : TlsVersion → String
  | .tls12 => "Tls12"
  | .tls13 => "Tls13"

namespace TlsFault

def message : TlsFault → String
  | .versionsInverted least greatest =>
    "minimum TLS version " ++ versionName least ++ " is above maximum " ++ versionName greatest
  | .unknownSuite name => "unknown cipher suite " ++ Text.quote name
  | .noSuites => "cipher suite list is empty"
  | .suitesOutsideVersions =>
    "cipher suites do not fit the TLS versions: unexpected error: no usable cipher suites configured"
  | .authorityUnread path fault =>
    "failed to read CA cert " ++ path ++ ": " ++ fault.message
  | .authorityUnclear fault => "invalid CA cert: " ++ fault.message
  | .authorityMissing => "invalid CA cert: no certificates in PEM"
  | .authorityMalformed => "invalid CA cert: invalid peer certificate: BadEncoding"
  | .setupFailed => "failed to build HTTP client: builder error"

end TlsFault

def isWithin (tls : TlsConfig) (version : TlsVersion) : Bool :=
  tls.minVersion.isAtMost version && version.isAtMost tls.maxVersion

/-- The suites of a list of names, or the first name that is none. -/
def suitesNamed : List String → Except TlsFault (List CipherSuite)
  | [] => .ok []
  | name :: rest =>
    match suiteNamed? name with
    | some suite => do return suite :: (← suitesNamed rest)
    | none => .error (.unknownSuite name)

def readAuthority (files : Files) (path : String) : Except TlsFault Bytes :=
  match files path with
  | .ok content => .ok content
  | .error fault => .error (.authorityUnread path fault)

/-- With a list of suites, an authority has to be at least one certificate. -/
def checkStrictAuthority (files : Files) (path : String) : Except TlsFault Unit := do
  match Pem.certificates (← readAuthority files path) with
  | .error fault => throw (.authorityUnclear fault)
  | .ok [] => throw .authorityMissing
  | .ok certificates =>
    if certificates.all Certificate.isWellFormed then pure () else throw .authorityMalformed

/-- Without such a list, an authority may be empty. -/
def checkAuthority (files : Files) (path : String) : Except TlsFault Unit := do
  match Pem.certificates (← readAuthority files path) with
  | .error _ => throw .setupFailed
  | .ok certificates =>
    if certificates.all Certificate.isWellFormed then pure () else throw .setupFailed

def checkSuites (tls : TlsConfig) (names : List String) : Except TlsFault Unit := do
  let suites ← suitesNamed names
  if suites.isEmpty then throw .noSuites
  if suites.any fun suite => isWithin tls suite.version then pure ()
  else throw .suitesOutsideVersions

/-- Whether a connection can be set up under a policy. -/
def checkTls (files : Files) (tls : TlsConfig) : Except TlsFault Unit := do
  if !tls.minVersion.isAtMost tls.maxVersion then
    throw (.versionsInverted tls.minVersion tls.maxVersion)
  match tls.cipherSuites, tls.verification with
  | some names, .authority path =>
    checkSuites tls names
    checkStrictAuthority files path
  | some names, _ => checkSuites tls names
  | none, .authority path => checkAuthority files path
  | none, _ => pure ()

def setUp (files : Files) (tls : TlsConfig) : Except ClientError Unit :=
  match checkTls files tls with
  | .ok () => .ok ()
  | .error fault => .error (.tls fault.message)

end ClusterRest.Transport
