import ClusterRest.Config.Error
import ClusterRest.Toml.Reader

/-! Saving a configuration, and loading one: built-in settings, those of a file over them, and those
of environment variables over both. -/

namespace ClusterRest.Config

def builtIn (value : Scalar) : Setting := .scalar .builtIn value

def standardSettings : Settings :=
  [(defaultProfileName, builtIn (.text standardName)),
    (defaultsName, .table .builtIn
      [("auth_mode", builtIn (.signed Defaults.standard.authMode)),
        ("insecure", builtIn (.boolean Defaults.standard.insecure)),
        ("timeout", builtIn (.text Defaults.standard.timeout)),
        ("verbosity", builtIn (.signed Defaults.standard.verbosity))]),
    (profilesName, .table .builtIn [])]

/-- The files after a configuration is saved at a path. -/
def save (config : Config) (files : Files) (path : String) : Files :=
  files.write path (Bytes.ofString config.toToml)

/-- The settings of a file; there are none if no plain file is there. -/
def fileSettings (files : Files) (path : String) : Except ConfigError Settings :=
  match files.readText path with
  | .error fault => if fault.isAbsence then .ok [] else .error (.malformedFile path)
  | .ok text =>
    match Toml.parse? text with
    | some members => .ok (Setting.membersOfToml members)
    | none => .error (.malformedFile path)

/-- The settings of all layers, the later ones over the earlier. -/
def layered (layers : List Settings) : Settings := layers.foldl Setting.mergeInto []

def load (files : Files) (path : String) (environment : Variables) : Except ConfigError Config := do
  let settings ← fileSettings files path
  (ofSettings (layered [standardSettings, settings, environment.settings])).mapError
    (ConfigError.unfit path)

def loadOrStandard (files : Files) (path : String) (environment : Variables) : Config :=
  match load files path environment with
  | .ok config => config
  | .error _ => .standard

/-- The profile that a name selects, with its name. -/
def profile (config : Config) (name : Option String) : Except ConfigError (String × Profile) :=
  let selected := config.selectedName name
  match config.find? selected with
  | some profile => .ok (selected, profile)
  | none => .error (.profileNotFound selected)

end ClusterRest.Config
