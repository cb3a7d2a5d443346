import ClusterRest.CommandLine.Failure
import ClusterRest.CommandLine.Invocation
import ClusterRest.Config.Load
import ClusterRest.Config.Resolve

/-! The client settings that a profile and the options of a command line give together. -/

namespace ClusterRest.CommandLine

/-- The number that stands for a mode in a profile. -/
def rawAuthMode : AuthMode → Int
  | .basic => 0
  | .session => 1

namespace Options

/-- The name of the profile that options make up without a file. -/
def bareName : String := "cli"

/-- Options stand over what a profile says. -/
def overlay (options : Options) (profile : Profile) : Profile :=
  { profile with
    endpoint := options.endpoint.getD profile.endpoint
    username := options.username <|> profile.username
    password := options.password <|> profile.password
    authMode := options.authMode.map rawAuthMode <|> profile.authMode
    insecure := if options.insecure then some true else profile.insecure
    timeout := options.timeout <|> profile.timeout }

/-- The profile that the options choose. Without one an endpoint is enough, unless a profile was
asked for by name. -/
def chooseProfile (options : Options) (config : Config) (configPath : String) :
    Except Failure (String × Profile) :=
  match config.profile options.profile with
  | .ok found => .ok found
  | .error error =>
    if options.profile.isSome then .error (.ofConfigError configPath error)
    else if options.endpoint.isNone then .error (.noConfig configPath)
    else .ok (bareName, .ofEndpoint "")

/-- From this count on, verbosity is high. -/
def highVerbosityCount : Nat := 3

/-- A password and a high verbosity among the options stand over all else. -/
def finish (options : Options) (config : ClientConfig) : ClientConfig :=
  { config with
    password := options.password.getD config.password
    verbosity := if highVerbosityCount ≤ options.verbose then .high else config.verbosity }

def resolve (options : Options) (config : Config) (configPath : String) (host : Host) :
    ExceptT Failure (StateM (List Warning)) ClientConfig := do
  let (name, profile) ← options.chooseProfile config configPath
  let resolved ← ((options.overlay profile).resolve name config.defaults host).adapt
    (Failure.ofConfigError configPath)
  return options.finish resolved

end Options

/-- The settings of a client, for whatever configuration the file and the variables give. -/
def clientConfig (files : Files) (configPath : String) (host : Host) (options : Options) :
    ExceptT Failure (StateM (List Warning)) ClientConfig :=
  options.resolve (Config.loadOrStandard files configPath host.environment) configPath host

end ClusterRest.CommandLine
