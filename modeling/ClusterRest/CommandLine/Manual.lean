import ClusterRest.CommandLine.Invocation

/-! What the program says about itself: an overview of its words, and what shells complete. -/

namespace ClusterRest.CommandLine

namespace OptionSpec

/-- How an option is written. -/
def usage (spec : OptionSpec) : String :=
  let short := match spec.short with
    | some letter => "-" ++ String.singleton letter ++ ", "
    | none => ""
  let value := if spec.arity.takesValue then " <value>" else ""
  let fallback := match spec.fallback with
    | some name => " [or the variable " ++ name ++ "]"
    | none => ""
  "  " ++ short ++ "--" ++ spec.long ++ value ++ fallback ++ "\n"

end OptionSpec

namespace Manual

def commandLines (names : List String) : String :=
  String.join (names.map fun name => "  " ++ name ++ "\n")

def overview : String :=
  "Usage: " ++ Invocation.programName ++ " [options] <command>\n\nCommands:\n"
    ++ commandLines Invocation.commandNames
    ++ "\nOptions:\n" ++ String.join (Invocation.sharedOptions.map OptionSpec.usage)
    ++ "\nOptions of requests:\n" ++ String.join (Invocation.requestOptions.map OptionSpec.usage)

/-- The words of commands between blanks. -/
def commandWords : String := " ".intercalate Invocation.commandNames

/-- A script with which a shell completes the words of commands. -/
def completions (shell : String) : String :=
  let program := Invocation.programName
  let script := match shell with
    | "bash" => "complete -W '" ++ commandWords ++ "' " ++ program
    | "elvish" =>
      "set edit:completion:arg-completer[" ++ program ++ "] = \x7b|@words| put " ++ commandWords
        ++ " \x7d"
    | "fish" => "complete -c " ++ program ++ " -f -a '" ++ commandWords ++ "'"
    | "powershell" =>
      "Register-ArgumentCompleter -Native -CommandName " ++ program
        ++ " -ScriptBlock \x7b -split '" ++ commandWords ++ "' \x7d"
    | _ => "#compdef " ++ program ++ "\n_values command " ++ commandWords
  script ++ "\n"

end Manual

end ClusterRest.CommandLine
