import ClusterRest.Bytes

/-! Reading files, as far as results and messages go. -/

namespace ClusterRest

/-- Why a file cannot be read; `notPlain` is for paths that lead to no plain file, but to a
directory, say. -/
inductive FileFault where
  | missing
  | notPlain (reason : String)
  | notText
  | other (reason : String)
  deriving DecidableEq, Repr

namespace FileFault

def message : FileFault → String
  | .missing => "No such file or directory (os error 2)"
  | .notPlain reason => reason
  | .notText => "stream did not contain valid UTF-8"
  | .other reason => reason

/-- Whether there is no plain file to be read. -/
def isAbsence : FileFault → Bool
  | .missing | .notPlain _ => true
  | .notText | .other _ => false

end FileFault

/-- The content of each file that can be read. -/
abbrev Files := String → Except FileFault Bytes

/-- No file at all. -/
def Files.empty : Files := fun _ => .error .missing

/-- The files after one of them is written, in place of what was there. -/
def Files.write (files : Files) (path : String) (content : Bytes) : Files :=
  fun other => if other = path then .ok content else files other

/-- The content of a file that has to be UTF-8. -/
def Files.readText (files : Files) (path : String) : Except FileFault String := do
  match Bytes.toString? (← files path) with
  | some text => pure text
  | none => throw .notText

end ClusterRest
