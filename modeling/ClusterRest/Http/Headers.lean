import ClusterRest.Bytes
import ClusterRest.Text.Ascii

/-! Header names, header values, and the multimap from one to the other. -/

namespace ClusterRest.Http

open Text

/-- Characters that a header name may hold. -/
def isTokenChar (character : Char) : Bool :=
  isAsciiAlphanumeric character || "!#$%&'*+-.^_\x60|~".toList.contains character

def greatestNameLength : Nat := 65535

/-- A header name in lower case, if it is one. -/
def headerName? (text : String) : Option String :=
  if text.isEmpty || !text.toList.all isTokenChar || text.utf8ByteSize > greatestNameLength then none
  else some (asciiLower text)

/-- Bytes that a header value may hold: no control but the tab. -/
def isValueByte (byte : UInt8) : Bool := (0x20 ≤ byte && byte != 0x7F) || byte == 0x09

def isHeaderValue (value : Bytes) : Bool := value.all isValueByte

/-- What is said of a value that is none. -/
def badValue : String := "failed to parse header value"

/-- Visible ASCII, spaces and tabs, as text. -/
def visibleText? (value : Bytes) : Option String :=
  if value.all fun byte => (0x20 ≤ byte && byte < 0x7F) || byte == 0x09 then
    some (String.ofList (value.map fun byte => Char.ofNat byte.toNat))
  else none

/-- The values of each name, names in the order of their first use. -/
structure Headers where
  groups : List (String × List Bytes)
  deriving DecidableEq, Repr, Inhabited

namespace Headers

def empty : Headers := ⟨[]⟩

def isEmpty (headers : Headers) : Bool := headers.groups.isEmpty

def updateGroups (name : String) (change : List Bytes → List Bytes) :
    List (String × List Bytes) → List (String × List Bytes)
  | [] => [(name, change [])]
  | (other, values) :: rest =>
    if other = name then (other, change values) :: rest
    else (other, values) :: updateGroups name change rest

/-- Adds a value to those of a name. -/
def append (headers : Headers) (name : String) (value : Bytes) : Headers :=
  ⟨updateGroups name (· ++ [value]) headers.groups⟩

/-- Puts new values in the place of those of a name. -/
def replaceAll (headers : Headers) (name : String) (values : List Bytes) : Headers :=
  ⟨updateGroups name (fun _ => values) headers.groups⟩

def insert (headers : Headers) (name : String) (value : Bytes) : Headers :=
  headers.replaceAll name [value]

/-- Lets each name of other headers replace its values here. -/
def extend (headers others : Headers) : Headers :=
  others.groups.foldl (fun result (name, values) => result.replaceAll name values) headers

def valuesIn (name : String) : List (String × List Bytes) → List Bytes
  | [] => []
  | (other, values) :: rest => if other = name then values else valuesIn name rest

def values (headers : Headers) (name : String) : List Bytes := valuesIn name headers.groups

def first? (headers : Headers) (name : String) : Option Bytes := (headers.values name).head?

def toList (headers : Headers) : List (String × Bytes) :=
  headers.groups.flatMap fun (name, values) => values.map (name, ·)

def ofList (entries : List (String × Bytes)) : Headers :=
  entries.foldl (fun headers (name, value) => headers.append name value) empty

end Headers

end ClusterRest.Http
