import ClusterRest.CommandLine.Composition
import ClusterRest.CommandLine.Manual
import ClusterRest.CommandLine.Settings
import ClusterRest.Transport.Connect

/-! The whole program: from the words of a command line to what it prints and its exit code. -/

namespace ClusterRest.CommandLine

open Transport (Network Traffic)

/-- What a run can use: files, the path of the one with the configuration, and what the machine
knows. -/
structure Surroundings where
  files : Files
  configPath : String
  host : Host

/-- What ends a run early. -/
inductive Stop where
  | usage (reason : Usage)
  | failure (cause : Failure)
  deriving DecidableEq, Repr

def Stop.exitCode : Stop → Nat
  | .usage reason => reason.exitCode
  | .failure cause => cause.exitCode

/-- The lines that tell a user why a run ended. -/
def Stop.lines : Stop → List String
  | .usage reason => [reason.message].filter (!·.isEmpty)
  | .failure cause => cause.code?.toList ++ [cause.message] ++ cause.advice?.toList

/-- What a run prints, and what ended it early. -/
structure Report where
  output : String
  stop : Option Stop
  deriving DecidableEq, Repr

def Report.exitCode (report : Report) : Nat := (report.stop.map Stop.exitCode).getD 0

/-- A part of a run, over the traffic and the session of its client. -/
abbrev Action (World : Type) := ExceptT Failure (StateM (Run (Traffic World)))

def Action.warn {World : Type} (warnings : List Warning) : Action World Unit :=
  modify fun run =>
    { run with world := { run.world with warnings := run.world.warnings ++ warnings } }

variable {World : Type}

/-- A client of the cluster that the options and the configuration name. -/
def openClient (surroundings : Surroundings) (network : Network World) (options : Options) :
    Action World (Client (Traffic World)) := do
  let (resolved, warnings) :=
    (clientConfig surroundings.files surroundings.configPath surroundings.host options).run.run []
  Action.warn warnings
  let config ← resolved
  (Transport.connect surroundings.files network config).adapt
    (Failure.ofConnectError · config.endpoint)

/-- The indented text of a reply, on lines of its own. -/
def printed : Option Json.Value → String
  | none => ""
  | some value => value.pretty ++ "\n"

/-- Carries out a command and gives what it prints. -/
def perform (surroundings : Surroundings) (network : Network World) (invocation : Invocation) :
    Action World String := do
  match invocation.command with
  | .completions shell => return Manual.completions shell
  | .version =>
    let client ← openClient surroundings network invocation.options
    return client.version.toText ++ "\n"
  | .request verb arguments =>
    let client ← openClient surroundings network invocation.options
    let request ← arguments.compose surroundings.files verb
    return printed (← (client.execute request).adapt Failure.ofClientError)

/-- What is printed instead where no command is carried out. -/
def Usage.output : Usage → String
  | .help => Manual.overview
  | .version program => program ++ " " ++ Invocation.programVersion ++ "\n"
  | _ => ""

def runWords (surroundings : Surroundings) (network : Network World) (words : List String)
    (world : World) : Report × Traffic World :=
  match Invocation.parse words surroundings.host.environment with
  | .error reason => (⟨reason.output, some (.usage reason)⟩, .start world)
  | .ok invocation =>
    let (result, run) := (perform surroundings network invocation).run.run (.start (.start world))
    match result with
    | .ok output => (⟨output, none⟩, run.world)
    | .error cause => (⟨"", some (.failure cause)⟩, run.world)

/-- The files besides the configuration that a command line names. -/
def filesNamed (surroundings : Surroundings) (words : List String) : List String :=
  match Invocation.parse words surroundings.host.environment with
  | .error _ => []
  | .ok invocation =>
    let resolved := (clientConfig surroundings.files surroundings.configPath surroundings.host
      invocation.options).run.run []
    let authority := match resolved.1 with
      | .ok config => config.tls.verification.path?.toList
      | .error _ => []
    let data := match invocation.command with
      | .request _ arguments => arguments.dataFile.toList
      | .version | .completions _ => []
    authority ++ data

end ClusterRest.CommandLine
