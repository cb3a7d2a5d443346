import ClusterRest.ClientError
import ClusterRest.Json.Reader

/-! The version that a cluster reports, and whether it is supported. -/

namespace ClusterRest

namespace ApiVersion

def latestPath : String := "/platform/latest"

def parse (text : String) : Except ClientError ApiVersion :=
  match parse? text with
  | some version => .ok version
  | none => .error (.invalidVersion text)

def ensureSupported (version : ApiVersion) : Except ClientError ApiVersion :=
  if version.isSupported then .ok version else .error (.unsupportedVersion version leastMajor)

/-- The version in a report; a missing or blank one counts as `unreported`. -/
def ofReport (latest : Option String) : Except ClientError ApiVersion := do
  let version ← match latest with
    | some text => if Text.isAllBlank text then pure unreported else parse text
    | none => pure unreported
  version.ensureSupported

open Json

def reportType : String := "struct LatestResponse"

/-- The member `latest` of a report, once. -/
def reportMember (name : String) (read : Option (Option String)) :
    Reader (Option (Option String)) := do
  if name = "latest" then
    if read.isSome then failWhole closeBrace (.duplicateField name)
    passColon
    return some (← optional text)
  else
    passColon
    skipValue
    return read

/-- A report: an object with the member `latest`, or a list that holds it. -/
def reportReader : Reader (Option String) := do
  let first ← peekValue
  if first == openBrace then return (← members reportMember none).join
  else if first == openBracket then
    skipByte
    match ← element? (optional text) true with
    | some latest =>
      closeList
      return latest
    | none => failWhole closeBracket (.invalidLength 0 (reportType ++ " with 1 element"))
  else failType reportType

end ApiVersion

end ClusterRest
