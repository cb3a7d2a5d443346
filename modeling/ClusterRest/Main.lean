import ClusterRest.CommandLine.Program
import ClusterRest.Config.Location

/-! The program as a command. It has no network of its own: no host answers it. -/

namespace ClusterRest.CommandLine

def faultOf : IO.Error → FileFault
  | .noFileOrDirectory _ _ _ => .missing
  | .inappropriateType _ code details =>
    .notPlain (details ++ " (os error " ++ toString code ++ ")")
  | fault => .other (toString fault)

/-- The content of a file, or what keeps it from being read. -/
def readContent (path : String) : IO (Except FileFault Bytes) := do
  match ← (IO.FS.readBinFile path).toBaseIO with
  | .ok content => return .ok content.toList
  | .error fault => return .error (faultOf fault)

/-- The files at some paths, as they are now. -/
def readFiles (paths : List String) : IO Files := do
  let contents ← paths.mapM fun path => return (path, ← readContent path)
  return fun path => (contents.lookup path).getD (.error .missing)

def variablesPath : String := "/proc/self/environ"

def readVariables : IO Variables := do
  match ← readContent variablesPath with
  | .ok block => return .ofBlock block
  | .error _ => return []

end ClusterRest.CommandLine

open ClusterRest CommandLine

def main (words : List String) : IO UInt32 := do
  let environment ← readVariables
  let configPath := Config.location environment
  let host : Host := ⟨environment, fun _ => none⟩
  let configured : Surroundings := ⟨← readFiles [configPath], configPath, host⟩
  let files ← readFiles (configPath :: filesNamed configured words)
  let (report, traffic) :=
    runWords { configured with files } (fun world _ => (.unreachable, world)) words ()
  (traffic.warnings.map Warning.text).forM (IO.eprintln ·)
  IO.print report.output
  (report.stop.toList.flatMap Stop.lines).forM (IO.eprintln ·)
  return report.exitCode.toUInt32
