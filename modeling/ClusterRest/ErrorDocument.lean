import ClusterRest.ClientError
import ClusterRest.Html.Document
import ClusterRest.Http.Headers
import ClusterRest.Json.Reader

/-! Reading the replies by which a cluster reports a failure. -/

namespace ClusterRest

namespace ErrorEntry

open Json

def typeName : String := "struct ErrorDetail"

/-- The members that are read so far. -/
structure Parts where
  code : Option String
  field : Option String
  message : Option String

def Parts.entry (parts : Parts) : ErrorEntry :=
  ⟨parts.code.getD "", parts.field.getD "", parts.message.getD ""⟩

/-- The value of a member that may occur once. -/
def once (name : String) (read : Option String) : Reader String := do
  if read.isSome then failWhole closeBrace (.duplicateField name)
  passColon
  text

def member (name : String) (parts : Parts) : Reader Parts := do
  if name = "code" then return { parts with code := some (← once name parts.code) }
  else if name = "field" then return { parts with field := some (← once name parts.field) }
  else if name = "message" then return { parts with message := some (← once name parts.message) }
  else
    passColon
    skipValue
    return parts

/-- Up to `count` texts of a list. -/
def texts : (count : Nat) → (isFirst : Bool) → Reader (List String)
  | 0, _ => pure []
  | count + 1, isFirst => do
    match ← element? text isFirst with
    | none => return []
    | some read => return read :: (← texts count false)

/-- An entry: an object, or a list of at most three texts. What is absent is empty. -/
def reader : Reader ErrorEntry := do
  let first ← peekValue
  if first == openBrace then return (← members member ⟨none, none, none⟩).entry
  else if first == openBracket then
    skipByte
    let read ← texts 3 true
    closeList
    return Parts.entry ⟨read[0]?, read[1]?, read[2]?⟩
  else failType typeName

end ErrorEntry

namespace ErrorDocument

open Json

def typeName : String := "struct ErrorDocument"

def entriesReader : Reader (List ErrorEntry) := do
  if (← peekValue) == openBracket then
    list (fun read => do return read ++ [← ErrorEntry.reader]) []
  else failType "a sequence"

def member (name : String) (read : Option (List ErrorEntry)) :
    Reader (Option (List ErrorEntry)) := do
  if name = "errors" then
    if read.isSome then failWhole closeBrace (.duplicateField name)
    passColon
    return some (← entriesReader)
  else
    passColon
    skipValue
    return read

/-- A document: an object whose member `errors` lists the entries, or a list that holds this list. -/
def reader : Reader (List ErrorEntry) := do
  let first ← peekValue
  if first == openBrace then return (← members member none).getD []
  else if first == openBracket then
    skipByte
    let read ← element? entriesReader true
    closeList
    return read.getD []
  else failType typeName

/-- Whether the first content type given is that of a page. -/
def isPage (headers : Http.Headers) : Bool :=
  match (headers.first? "content-type").bind Http.visibleText? with
  | none => false
  | some contentType =>
    let media := (Text.pieces ';' contentType).head?.getD ""
    Text.sameIgnoringCase (Text.trim media) "text/html"

/-- The failure that a reply reports. A blank body reports no entries. -/
def decode (status : Nat) (headers : Http.Headers) (body : Bytes) : ClientError :=
  if isPage headers then .reply (.page status (Html.headline (Bytes.toStringLossy body)))
  else if body.all isAsciiBlank then .reply (.entries status (Http.statusLine status) [])
  else match readWhole reader body with
    | .ok entries => .reply (.entries status (Http.statusLine status) entries)
    | .error fault => .ofFault fault body

end ErrorDocument

end ClusterRest
