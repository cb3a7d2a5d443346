import ClusterRest.Config.Decode
import ClusterRest.Config.Variables
import ClusterRest.Files

/-! Why a configuration cannot be loaded or used. -/

namespace ClusterRest

inductive ConfigError where
  | invalid (field reason : String)
  | noCredentials (profile : String)
  | profileNotFound (name : String)
  | malformedFile (path : String)
  | unfit (path : String) (misfit : Misfit)
  | unusableFile (fault : FileFault)
  deriving DecidableEq, Repr

/-- Names in a file start below this one. -/
def fileRootName : String := "default"

/-- Where a setting came from, for a message. -/
def Misfit.place (file : String) (misfit : Misfit) : String :=
  match misfit.origin with
  | .builtIn => ""
  | .file =>
    " for key " ++ Text.quote (".".intercalate (fileRootName :: misfit.path)) ++ " in " ++ file
      ++ " TOML file"
  | .environment =>
    " for key " ++ Text.quote (".".intercalate (misfit.path.map Text.asciiUpper)) ++ " in \x60"
      ++ Variables.settingPrefix ++ "\x60 environment variable(s)"

def ConfigError.message : ConfigError → String
  | .invalid field reason => "invalid " ++ field ++ ": " ++ reason
  | .noCredentials profile => "no credentials configured for profile '" ++ profile ++ "'"
  | .profileNotFound name => "profile '" ++ name ++ "' not found in config"
  | .malformedFile path => "config loading failed: malformed TOML file " ++ path
  | .unfit path misfit =>
    "config loading failed: " ++ misfit.mismatch.message ++ misfit.place path
  | .unusableFile fault => "IO error: " ++ fault.message

end ClusterRest
