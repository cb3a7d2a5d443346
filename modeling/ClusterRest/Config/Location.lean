import ClusterRest.Config.Variables

/-! Where the configuration of a user is kept. -/

namespace ClusterRest

open Text

/-- The variables of a block of entries: a name, an equals sign and a value each, with zero bytes
between them. -/
def Variables.ofBlock (block : Bytes) : Variables :=
  (pieces '\x00' (Bytes.toStringLossy block)).filterMap (cut '=')

namespace Config

def folderVariable : String := "XDG_CONFIG_HOME"
def homeVariable : String := "HOME"

/-- A folder for configurations counts only if its path is absolute. -/
def folder (environment : Variables) : String :=
  match (environment.find? folderVariable).filter (·.startsWith "/") with
  | some folder => folder
  | none => (environment.find? homeVariable).getD "." ++ "/.config"

def location (environment : Variables) : String := folder environment ++ "/onefs/config.toml"

end Config

end ClusterRest
