import ClusterRest.Toml.Printer

/-! Configurations: named profiles of clusters, and defaults for what a profile leaves out. -/

namespace ClusterRest

structure Defaults where
  authMode : Int
  insecure : Bool
  timeout : String
  verbosity : Int
  deriving DecidableEq, Repr

def Defaults.standard : Defaults := ⟨0, false, "30s", 2⟩

structure Profile where
  endpoint : String
  username : Option String
  password : Option String
  group : Option String
  authMode : Option Int
  insecure : Option Bool
  caCert : Option String
  minTlsVersion : Option String
  maxTlsVersion : Option String
  cipherSuites : Option (List String)
  timeout : Option String
  volumesPath : Option String
  volumesPathPermissions : Option String
  ignoreUnresolvableHosts : Option Bool
  verbosity : Option Int
  deriving DecidableEq, Repr

/-- The profile that only names a cluster. -/
def Profile.ofEndpoint (endpoint : String) : Profile where
  endpoint
  username := none
  password := none
  group := none
  authMode := none
  insecure := none
  caCert := none
  minTlsVersion := none
  maxTlsVersion := none
  cipherSuites := none
  timeout := none
  volumesPath := none
  volumesPathPermissions := none
  ignoreUnresolvableHosts := none
  verbosity := none

/-- The profiles stand in the order of their names. -/
structure Config where
  defaultProfile : Option String
  defaults : Defaults
  profiles : List (String × Profile)
  deriving DecidableEq, Repr

namespace Config

/-- The profile to use when none is named anywhere. -/
def standardName : String := "default"

def standard : Config := ⟨some standardName, .standard, []⟩

/-- The name that selects a profile: the one asked for, or the default one. -/
def selectedName (config : Config) (name : Option String) : String :=
  (name <|> config.defaultProfile).getD standardName

def find? (config : Config) (name : String) : Option Profile := config.profiles.lookup name

end Config

open Toml

/-- The entry of a field that is set. -/
def entryOf (name : String) (leaf : α → Leaf) (field : Option α) : List (String × Leaf) :=
  (field.map fun value => (name, leaf value)).toList

def Defaults.entries (defaults : Defaults) : List (String × Leaf) :=
  [("auth_mode", .integer defaults.authMode),
    ("insecure", .boolean defaults.insecure),
    ("timeout", .text defaults.timeout),
    ("verbosity", .integer defaults.verbosity)]

def Profile.entries (profile : Profile) : List (String × Leaf) :=
  [("endpoint", .text profile.endpoint)]
    ++ entryOf "username" .text profile.username
    ++ entryOf "password" .text profile.password
    ++ entryOf "group" .text profile.group
    ++ entryOf "auth_mode" .integer profile.authMode
    ++ entryOf "insecure" .boolean profile.insecure
    ++ entryOf "ca_cert" .text profile.caCert
    ++ entryOf "min_tls_version" .text profile.minTlsVersion
    ++ entryOf "max_tls_version" .text profile.maxTlsVersion
    ++ entryOf "cipher_suites" .texts profile.cipherSuites
    ++ entryOf "timeout" .text profile.timeout
    ++ entryOf "volumes_path" .text profile.volumesPath
    ++ entryOf "volumes_path_permissions" .text profile.volumesPathPermissions
    ++ entryOf "ignore_unresolvable_hosts" .boolean profile.ignoreUnresolvableHosts
    ++ entryOf "verbosity" .integer profile.verbosity

namespace Config

def profileSections : List (String × Profile) → List Section
  | [] => [⟨["profiles"], []⟩]
  | profiles => profiles.map fun (name, profile) => ⟨["profiles", name], profile.entries⟩

/-- The tables that write a configuration; what is not set has no entry. -/
def sections (config : Config) : List Section :=
  (config.defaultProfile.map fun name => ⟨[], [("default_profile", .text name)]⟩).toList
    ++ [⟨["defaults"], config.defaults.entries⟩]
    ++ profileSections config.profiles

/-- The file that keeps a configuration. -/
def toToml (config : Config) : String := written config.sections

end Config

end ClusterRest
