import ClusterRest.Duration.Basic
import ClusterRest.Warning

/-! How to reach one cluster, and as whom. -/

namespace ClusterRest

inductive AuthMode where
  | basic
  | session
  deriving DecidableEq, Repr, Inhabited

namespace AuthMode

/-- The mode that a number stands for; an unknown number stands for basic authentication. -/
def ofRaw (raw : Int) : AuthMode := if raw = 1 then .session else .basic

def warnings (raw : Int) : List Warning :=
  if raw = 0 || raw = 1 then [] else [.unknownAuthMode raw]

def name : AuthMode → String
  | .basic => "basic"
  | .session => "session"

end AuthMode

/-- How much of each exchange a dump shows: its first line, headers too, bodies too. -/
inductive Verbosity where
  | low
  | medium
  | high
  deriving DecidableEq, Repr, Inhabited

namespace Verbosity

/-- The verbosity that a number stands for; an unknown number stands for the low one. -/
def ofRaw (raw : Int) : Verbosity :=
  if raw = 0 then .high else if raw = 1 then .medium else .low

def warnings (raw : Int) : List Warning :=
  if raw = 0 || raw = 1 || raw = 2 then [] else [.unknownVerbosity raw]

def name : Verbosity → String
  | .low => "low"
  | .medium => "medium"
  | .high => "high"

def showsHeaders : Verbosity → Bool
  | .low => false
  | .medium | .high => true

def showsBody : Verbosity → Bool
  | .low | .medium => false
  | .high => true

end Verbosity

inductive TlsVersion where
  | tls12
  | tls13
  deriving DecidableEq, Repr, Inhabited

namespace TlsVersion

def number : TlsVersion → String
  | .tls12 => "1.2"
  | .tls13 => "1.3"

def isAtMost : TlsVersion → TlsVersion → Bool
  | .tls13, .tls12 => false
  | _, _ => true

end TlsVersion

/-- Whose certificates a cluster may present. -/
inductive Verification where
  | systemRoots
  | authority (path : String)
  | none
  deriving DecidableEq, Repr, Inhabited

/-- The file that certificates are checked with, where it is not the system's. -/
def Verification.path? : Verification → Option String
  | .authority path => some path
  | .systemRoots | .none => Option.none

structure TlsConfig where
  verification : Verification
  minVersion : TlsVersion
  maxVersion : TlsVersion
  cipherSuites : Option (List String)
  deriving DecidableEq, Repr, Inhabited

def TlsConfig.standard : TlsConfig := ⟨.systemRoots, .tls12, .tls13, none⟩

structure ClientConfig where
  endpoint : String
  username : String
  password : String
  group : String
  authMode : AuthMode
  tls : TlsConfig
  timeout : Duration
  volumesPath : String
  volumesPathPermissions : String
  ignoreUnresolvableHosts : Bool
  verbosity : Verbosity
  deriving DecidableEq, Repr

namespace ClientConfig

def standardTimeout : Duration := .ofSeconds 30
def standardVolumesPath : String := "/ifs/volumes"
def standardPermissions : String := "0777"

def new (endpoint username password : String) : ClientConfig where
  endpoint
  username
  password
  group := ""
  authMode := .basic
  tls := .standard
  timeout := standardTimeout
  volumesPath := standardVolumesPath
  volumesPathPermissions := standardPermissions
  ignoreUnresolvableHosts := false
  verbosity := .low

end ClientConfig

end ClusterRest
