import ClusterRest.ClientConfig
import ClusterRest.Http.Headers
import ClusterRest.Json.Printer
import ClusterRest.Json.Reader

/-! Texts of exchanges for the eye, with secrets masked. -/

namespace ClusterRest.Dump

open Json (Value)

def mask : String := "******"

def secretHeaders : List String := ["authorization", "cookie", "set-cookie", "x-csrf-token"]

def secretMember : String := "password"

def isSecretHeader (name : String) : Bool :=
  secretHeaders.any fun secret => Text.sameIgnoringCase name secret

def isSecretMember (name : String) : Bool := Text.sameIgnoringCase name secretMember

mutual

/-- A value with the members masked that hold passwords. -/
def redactValue : Value → Value
  | .array elements => .array (redactElements elements)
  | .object members => .object (redactMembers members)
  | value => value

def redactElements : List Value → List Value
  | [] => []
  | value :: rest => redactValue value :: redactElements rest

def redactMembers : List (String × Value) → List (String × Value)
  | [] => []
  | (name, value) :: rest =>
    (name, if isSecretMember name then .string mask else redactValue value) :: redactMembers rest

end

/-- A body as text: JSON without passwords, other text as it is, and the size of anything else. -/
def redactBody (body : Bytes) : String :=
  match Json.parse body with
  | .ok value => (redactValue value).compact
  | .error _ =>
    match Bytes.toString? body with
    | some text => text
    | none => "<" ++ toString body.length ++ " bytes of binary data>"

def headerLine (name : String) (value : Bytes) : String :=
  "\n" ++ name ++ ": " ++
    if isSecretHeader name then mask else (Http.visibleText? value).getD "<binary>"

def headerLines (headers : Http.Headers) : String :=
  String.join (headers.toList.map fun (name, value) => headerLine name value)

def bodyText (body : Option Bytes) : String :=
  match body with
  | none => ""
  | some content => if content.isEmpty then "" else "\n\n" ++ redactBody content

/-- The first line, then headers, then the body, as far as the verbosity goes. -/
def render (firstLine : String) (verbosity : Verbosity) (headers : Http.Headers)
    (body : Option Bytes) : String :=
  firstLine ++ (if verbosity.showsHeaders then headerLines headers else "") ++
    (if verbosity.showsBody then bodyText body else "")

end ClusterRest.Dump
