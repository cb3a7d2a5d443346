import ClusterRest.CommandLine.Failure
import ClusterRest.CommandLine.Invocation
import ClusterRest.Json.Reader
import ClusterRest.Request
import ClusterRest.Text.Blank
import ClusterRest.Text.Pieces

/-! The request that the arguments of a command compose. -/

namespace ClusterRest.CommandLine

open Text

def Verb.toRequest (path : String) : Verb → Request
  | .get => .get path
  | .post => .post path
  | .put => .put path
  | .delete => .delete path

/-- The trimmed name before a mark, which may not be blank, and all that is after it. -/
def splitPair (mark : Char) (field raw : String) : Except Failure (String × String) :=
  let failure := Failure.invalid field
    ("expected KEY" ++ String.singleton mark ++ "VALUE, got '" ++ raw ++ "'")
  match cut mark raw with
  | none => .error failure
  | some (name, value) => if isAllBlank name then .error failure else .ok (trim name, value)

def paramOf (raw : String) : Except Failure (String × Bytes) := do
  let (name, value) ← splitPair '=' "param" raw
  return (name, Bytes.ofString value)

def addHeader (request : Request) (raw : String) : Except Failure Request := do
  let (name, value) ← splitPair ':' "header" raw
  (request.withHeader name (trimStart value)).mapError Failure.ofClientError

namespace RequestArguments

/-- The text of the body: the inline data, or else the content of the data file. -/
def bodyText (files : Files) (arguments : RequestArguments) : Except Failure (Option String) :=
  match arguments.data, arguments.dataFile with
  | some text, _ => .ok (some text)
  | none, some path => ((files.readText path).mapError Failure.file).map some
  | none, none => .ok none

/-- Parameters are looked at first, then headers, then the body. -/
def compose (files : Files) (verb : Verb) (arguments : RequestArguments) :
    Except Failure Request := do
  let params ← arguments.params.mapM paramOf
  let request := ((verb.toRequest arguments.path).withId (arguments.id.getD "")).withParams ⟨params⟩
  let request ← arguments.headers.foldlM addHeader request
  match ← arguments.bodyText files with
  | none => return request
  | some text =>
    let value ← (Json.parse (Bytes.ofString text)).mapError Failure.json
    return request.withJson value

end RequestArguments

end ClusterRest.CommandLine
