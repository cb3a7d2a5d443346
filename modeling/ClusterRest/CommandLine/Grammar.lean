import ClusterRest.Config.Variables

/-! Command lines: what the words of one level may be, and what they give. -/

namespace ClusterRest.CommandLine

/-- Why a command line gives nothing to do. -/
inductive Usage where
  | help
  | version (program : String)
  | helpForNothing
  | missingCommand
  | unknownCommand
  | unknownWord
  | invalidValue
  | unneededValue
  | conflict
  | missingOperand
  deriving DecidableEq, Repr

namespace Usage

def message : Usage → String
  | .help | .version _ => ""
  | .helpForNothing | .missingCommand => "a command is missing"
  | .unknownCommand => "there is no such command"
  | .unknownWord => "a word is not expected here"
  | .invalidValue => "a value is missing or not one of those that are possible"
  | .unneededValue => "an option that takes no value has one"
  | .conflict => "two options cannot be given together"
  | .missingOperand => "a required word is missing"

def misuseCode : Nat := 2

/-- Help and version numbers that were asked for are no failures. -/
def exitCode : Usage → Nat
  | .help | .version _ => 0
  | _ => misuseCode

end Usage

/-- What an option takes, and how often it may be given. -/
inductive Arity where
  | value
  | values
  | switch
  | count
  | help
  | version
  deriving DecidableEq, Repr

namespace Arity

def takesValue : Arity → Bool
  | .value | .values => true
  | _ => false

def isOnce : Arity → Bool
  | .value | .switch => true
  | _ => false

end Arity

/-- An option, or with no dashes before it an operand. Where it is not given, the environment
variable that it falls back to counts. -/
structure OptionSpec where
  long : String
  short : Option Char
  arity : Arity
  fallback : Option String
  accepts : String → Bool

/-- One level of a command line: the program's own, or that of one of its commands. -/
structure Level where
  program : String
  options : List OptionSpec
  operand : Option OptionSpec
  commands : List String

/-- The names and values given, in order; what takes no value is given with an empty one. -/
abbrev Given := List (String × String)

namespace Given

def has (given : Given) (name : String) : Bool := given.any (·.1 = name)

def values (given : Given) (name : String) : List String :=
  (given.filter (·.1 = name)).map (·.2)

def value? (given : Given) (name : String) : Option String := (given.values name).head?

end Given

/-- How far the words of a level are read. The option read last waits with its values. -/
structure Scan where
  given : Given
  pending : Option (OptionSpec × List String)
  awaitsValue : Bool
  operandsOnly : Bool
  operandCount : Nat

namespace Scan

def start : Scan := ⟨[], none, false, false, 0⟩

end Scan

namespace Level

/-- Adds an option that was given with some values. -/
def settle (level : Level) (spec : OptionSpec) (values : List String) (given : Given) :
    Except Usage Given :=
  match spec.arity with
  | .help => .error .help
  | .version => .error (.version level.program)
  | arity =>
    if arity.takesValue && values.isEmpty then .error .invalidValue
    else if arity.isOnce && given.has spec.long then .error .conflict
    else
      let value := values.headD ""
      if arity.takesValue && !spec.accepts value then .error .invalidValue
      else .ok (given ++ [(spec.long, value)])

def settlePending (level : Level) (scan : Scan) : Except Usage Scan :=
  match scan.pending with
  | none => .ok scan
  | some (spec, values) => do
    let given ← level.settle spec values scan.given
    return { scan with given, pending := none }

/-- Takes an option that has all its values. -/
def complete (level : Level) (spec : OptionSpec) (values : List String) (scan : Scan) :
    Except Usage Scan := do
  let scan ← level.settlePending scan
  let given ← level.settle spec values scan.given
  return { scan with given, awaitsValue := false }

/-- Takes an option whose value is the next word. -/
def await (level : Level) (spec : OptionSpec) (scan : Scan) : Except Usage Scan := do
  let scan ← level.settlePending scan
  return { scan with pending := some (spec, []), awaitsValue := true }

/-- A word after two dashes, which may end in a value. -/
def stepLong (level : Level) (word : List Char) (scan : Scan) : Except Usage Scan :=
  let name := word.takeWhile (· ≠ '=')
  let attached := (word.drop name.length).tail?.map String.ofList
  match level.options.find? (·.long = .ofList name), attached with
  | none, _ => .error .unknownWord
  | some spec, some value =>
    if spec.arity.takesValue then level.complete spec [value] scan else .error .unneededValue
  | some spec, none =>
    if spec.arity.takesValue then level.await spec scan else level.complete spec [] scan

/-- The letters after one dash; the rest of them may be a value. -/
def stepShort (level : Level) : List Char → Scan → Except Usage Scan
  | [], scan => .ok { scan with awaitsValue := false }
  | letter :: rest, scan =>
    match level.options.find? (·.short = some letter) with
    | none => .error .unknownWord
    | some spec =>
      if spec.arity.takesValue then
        match rest with
        | [] => level.await spec scan
        | '=' :: value => level.complete spec [.ofList value] scan
        | value => level.complete spec [.ofList value] scan
      else do level.stepShort rest (← level.complete spec [] scan)

/-- The error of a word that is no operand. -/
def strayWord (level : Level) (word : String) (operandsOnly : Bool) : Usage :=
  if level.commands.isEmpty || (operandsOnly && level.commands.contains word) then .unknownWord
  else .unknownCommand

def stepOperand (level : Level) (word : String) (scan : Scan) : Except Usage Scan :=
  match level.operand, scan.operandCount with
  | some spec, 0 => do
    let scan ← level.settlePending scan
    return { scan with pending := some (spec, [word]), awaitsValue := false, operandCount := 1 }
  | _, _ => .error (level.strayWord word scan.operandsOnly)

def step (level : Level) (word : String) (scan : Scan) : Except Usage Scan :=
  if scan.operandsOnly then level.stepOperand word scan
  else match word.toList with
    | ['-', '-'] => .ok { scan with operandsOnly := true }
    | '-' :: '-' :: rest => level.stepLong rest scan
    | '-' :: letter :: rest => level.stepShort (letter :: rest) scan
    | _ =>
      match scan.awaitsValue, scan.pending with
      | true, some (spec, values) =>
        .ok { scan with pending := some (spec, values ++ [word]), awaitsValue := false }
      | _, _ => level.stepOperand word scan

/-- Reads words until a command, which is returned with the words after it. -/
def scan (level : Level) : List String → Scan → Except Usage (Scan × Option (String × List String))
  | [], state => .ok (state, none)
  | word :: rest, state =>
    if !state.operandsOnly && !state.awaitsValue && level.commands.contains word then
      .ok (state, some (word, rest))
    else do level.scan rest (← level.step word state)

def acceptsVariable (spec : OptionSpec) (value : String) : Bool :=
  if spec.arity.takesValue then spec.accepts value else value = "true" || value = "false"

/-- The value that a variable gives to an option. -/
def fallbackValue (environment : Variables) (spec : OptionSpec) : Option String :=
  spec.fallback.bind environment.find?

/-- The variables of options that are not given have to hold values that these accept. -/
def checkVariables (level : Level) (given : Given) (environment : Variables) : Except Usage Unit :=
  if level.options.all fun spec =>
      given.has spec.long || (fallbackValue environment spec).all (acceptsVariable spec)
  then .ok () else .error .invalidValue

end Level

end ClusterRest.CommandLine
