import ClusterRest.ClientConfig
import ClusterRest.CommandLine.Grammar

/-! What a command line asks for. -/

namespace ClusterRest.CommandLine

inductive Verb where
  | get
  | post
  | put
  | delete
  deriving DecidableEq, Repr

namespace Verb

def name : Verb → String
  | .get => "get"
  | .post => "post"
  | .put => "put"
  | .delete => "delete"

def ofName? : String → Option Verb
  | "get" => some .get
  | "post" => some .post
  | "put" => some .put
  | "delete" | "rm" => some .delete
  | _ => none

end Verb

structure RequestArguments where
  path : String
  id : Option String
  params : List String
  headers : List String
  data : Option String
  dataFile : Option String
  deriving DecidableEq, Repr

inductive Command where
  | request (verb : Verb) (arguments : RequestArguments)
  | version
  | completions (shell : String)
  deriving DecidableEq, Repr

/-- What the options of every command say about the connection. -/
structure Options where
  profile : Option String
  endpoint : Option String
  username : Option String
  password : Option String
  authMode : Option AuthMode
  insecure : Bool
  timeout : Option String
  verbose : Nat
  deriving DecidableEq, Repr

structure Invocation where
  command : Command
  options : Options
  deriving DecidableEq, Repr

namespace Invocation

def anyText (_ : String) : Bool := true

def authModeNamed (name : String) : Option AuthMode :=
  [AuthMode.basic, AuthMode.session].find? (·.name = name)

def shells : List String := ["bash", "elvish", "fish", "powershell", "zsh"]

def profileSpec : OptionSpec := ⟨"profile", 'p', .value, "ONEFS_PROFILE", anyText⟩
def endpointSpec : OptionSpec := ⟨"endpoint", 'e', .value, "ONEFS_ENDPOINT", anyText⟩
def usernameSpec : OptionSpec := ⟨"username", 'u', .value, "ONEFS_USERNAME", anyText⟩
def passwordSpec : OptionSpec := ⟨"password", none, .value, "ONEFS_PASSWORD", anyText⟩
def authModeSpec : OptionSpec :=
  ⟨"auth-mode", none, .value, "ONEFS_AUTH_MODE", fun name => (authModeNamed name).isSome⟩
def insecureSpec : OptionSpec := ⟨"insecure", 'k', .switch, "ONEFS_INSECURE", anyText⟩
def timeoutSpec : OptionSpec := ⟨"timeout", none, .value, "ONEFS_TIMEOUT", anyText⟩
def verboseSpec : OptionSpec := ⟨"verbose", 'v', .count, none, anyText⟩

/-- The options of every level. -/
def sharedOptions : List OptionSpec :=
  [profileSpec, endpointSpec, usernameSpec, passwordSpec, authModeSpec, insecureSpec, timeoutSpec,
    verboseSpec, ⟨"help", 'h', .help, none, anyText⟩, ⟨"version", 'V', .version, none, anyText⟩]

def idSpec : OptionSpec := ⟨"id", none, .value, none, anyText⟩
def paramSpec : OptionSpec := ⟨"param", 'q', .values, none, anyText⟩
def headerSpec : OptionSpec := ⟨"header", 'H', .values, none, anyText⟩
def dataSpec : OptionSpec := ⟨"data", 'd', .value, none, anyText⟩
def dataFileSpec : OptionSpec := ⟨"data-file", 'f', .value, none, fun path => !path.isEmpty⟩
def requestOptions : List OptionSpec := [idSpec, paramSpec, headerSpec, dataSpec, dataFileSpec]

def pathSpec : OptionSpec := ⟨"path", none, .value, none, anyText⟩
def shellSpec : OptionSpec := ⟨"shell", none, .value, none, shells.contains⟩

def programName : String := "onefs"
def programVersion : String := "0.1.0"
def helpName : String := "help"
def versionName : String := "version"
def completionsName : String := "completions"

def commandNames : List String :=
  ["get", "post", "put", "delete", "rm", versionName, completionsName, helpName]

def topLevel : Level := ⟨programName, sharedOptions, none, commandNames⟩

/-- The level of a command, under the name that its version is shown with. -/
def commandLevel (name : String) (own : List OptionSpec) (operand : Option OptionSpec) : Level :=
  ⟨programName ++ "-" ++ name, sharedOptions ++ own, operand, []⟩

def requestLevel (verb : Verb) : Level :=
  commandLevel verb.name requestOptions (some pathSpec)

/-- All that the words of a command give. -/
def readCommand (level : Level) (words : List String) (environment : Variables) :
    Except Usage Given := do
  let (scan, _) ← level.scan words .start
  let scan ← level.settlePending scan
  level.checkVariables scan.given environment
  return scan.given

def operandOf (given : Given) (spec : OptionSpec) : Except Usage String :=
  match given.value? spec.long with
  | some value => .ok value
  | none => .error .missingOperand

def requestOf (verb : Verb) (given : Given) : Except Usage Command := do
  if given.has dataSpec.long && given.has dataFileSpec.long then throw .conflict
  let path ← operandOf given pathSpec
  return .request verb {
    path
    id := given.value? idSpec.long
    params := given.values paramSpec.long
    headers := given.values headerSpec.long
    data := given.value? dataSpec.long
    dataFile := given.value? dataFileSpec.long }

/-- A command and what its words give. -/
def commandOf (name : String) (words : List String) (environment : Variables) :
    Except Usage (Command × Given) := do
  match Verb.ofName? name with
  | some verb =>
    let given ← readCommand (requestLevel verb) words environment
    return (← requestOf verb given, given)
  | none =>
    if name = versionName then
      let given ← readCommand (commandLevel versionName [] none) words environment
      return (.version, given)
    else
      let given ← readCommand (commandLevel completionsName [] (some shellSpec)) words environment
      return (.completions (← operandOf given shellSpec), given)

/-- Help is there for the program and for each command. -/
def helpOn : List String → Usage
  | [] => .help
  | [name] => if commandNames.contains name then .help else .unknownCommand
  | _ => .unknownCommand

def mostVerbose : Nat := 255

/-- What counts for an option is given after the command, or else before it, or else in a
variable. -/
def optionsOf (outer inner : Given) (environment : Variables) : Options :=
  let chosen (spec : OptionSpec) : Option String :=
    inner.value? spec.long <|> outer.value? spec.long <|> Level.fallbackValue environment spec
  let isGiven (spec : OptionSpec) : Bool := inner.has spec.long || outer.has spec.long
  let counted := if inner.has verboseSpec.long then inner else outer
  { profile := chosen profileSpec
    endpoint := chosen endpointSpec
    username := chosen usernameSpec
    password := chosen passwordSpec
    authMode := (chosen authModeSpec).bind authModeNamed
    insecure := isGiven insecureSpec || Level.fallbackValue environment insecureSpec = some "true"
    timeout := chosen timeoutSpec
    verbose := Nat.min mostVerbose (counted.values verboseSpec.long).length }

/-- Errors after a command's name come before those that end the words before it. -/
def parse (words : List String) (environment : Variables) : Except Usage Invocation := do
  let (scan, command?) ← topLevel.scan words .start
  match command? with
  | some (name, rest) =>
    if name = helpName then throw (helpOn rest)
    let (command, inner) ← commandOf name rest environment
    let scan ← topLevel.settlePending scan
    topLevel.checkVariables scan.given environment
    return ⟨command, optionsOf scan.given inner environment⟩
  | none =>
    let scan ← topLevel.settlePending scan
    topLevel.checkVariables scan.given environment
    let isBare := scan.given.isEmpty &&
      topLevel.options.all fun spec => (Level.fallbackValue environment spec).isNone
    throw (if isBare then .helpForNothing else .missingCommand)

end Invocation

end ClusterRest.CommandLine
