import ClusterRest.Toml.Text

/-! Writing TOML: strings in the quotes that need the fewest escapes, and tables of plain entries. -/

namespace ClusterRest.Toml

/-- The four ways to write a string. -/
inductive Quoting where
  | basic
  | literal
  | longBasic
  | longLiteral
  deriving DecidableEq, Repr

/-- Control characters that only an escape can write. -/
def needsEscape (character : Char) : Bool :=
  (character ≤ '\x1f' && character ≠ '\t' && character ≠ '\n') || character = '\x7f'

/-- The longest run of a character in a text, given the length of the run that it goes on. -/
def longestRun (mark : Char) : (run : Nat) → List Char → Nat
  | run, [] => run
  | run, character :: rest =>
    if character = mark then longestRun mark (run + 1) rest
    else Nat.max run (longestRun mark 0 rest)

/-- As many quotes may stand together in a long string. -/
def quotesInLong : Nat := 2

/-- Double quotes without escapes if possible, then single ones, then the long forms. -/
def quotingOf (text : List Char) : Quoting :=
  let hasLines := text.contains '\n'
  if text.any needsEscape then if hasLines then .longBasic else .basic
  else if !text.contains '\\' && !text.contains '"' && !hasLines then .basic
  else if !text.contains '\'' && !hasLines then .literal
  else if !text.contains '\\' && longestRun '"' 0 text ≤ quotesInLong then .longBasic
  else if longestRun '\'' 0 text ≤ quotesInLong then .longLiteral
  else if hasLines then .longBasic else .basic

def unicodeEscape (character : Char) : List Char :=
  let byte := UInt8.ofNat character.toNat
  ['\\', 'u', '0', '0', Bytes.upperHexDigit (byte / 16), Bytes.upperHexDigit (byte % 16)]

def escape (isLong : Bool) (character : Char) : List Char :=
  match character with
  | '\x08' => ['\\', 'b']
  | '\t' => ['\\', 't']
  | '\n' => if isLong then ['\n'] else ['\\', 'n']
  | '\x0c' => ['\\', 'f']
  | '\r' => ['\\', 'r']
  | '\\' => ['\\', '\\']
  | _ => if needsEscape character then unicodeEscape character else [character]

/-- The content of a string in double quotes. A quote gets a backslash once as many as may stand
together stand before it. -/
def escapedFrom (isLong : Bool) : (run : Nat) → List Char → List Char
  | _, [] => []
  | run, '"' :: rest =>
    if isLong && run < quotesInLong then '"' :: escapedFrom isLong (run + 1) rest
    else '\\' :: '"' :: escapedFrom isLong 0 rest
  | _, character :: rest => escape isLong character ++ escapedFrom isLong 0 rest

/-- A string of many lines starts on a line of its own. -/
def firstLineEnd (text : List Char) : List Char := if text.contains '\n' then ['\n'] else []

def quotedAs (text : List Char) : Quoting → List Char
  | .basic => ['"'] ++ escapedFrom false 0 text ++ ['"']
  | .literal => ['\''] ++ text ++ ['\'']
  | .longBasic =>
    ['"', '"', '"'] ++ firstLineEnd text ++ escapedFrom true 0 text ++ ['"', '"', '"']
  | .longLiteral => ['\'', '\'', '\''] ++ firstLineEnd text ++ text ++ ['\'', '\'', '\'']

def quoted (text : String) : String := .ofList (quotedAs text.toList (quotingOf text.toList))

/-- Names are written on one line. -/
def nameQuoting (name : List Char) : Quoting :=
  if name.any needsEscape || name.contains '\n' then .basic
  else if !name.contains '\\' && !name.contains '"' then .basic
  else if !name.contains '\'' then .literal
  else .basic

def writtenName (name : String) : String :=
  let characters := name.toList
  if !characters.isEmpty && characters.all isBareChar then name
  else .ofList (quotedAs characters (nameQuoting characters))

/-- What an entry of a written table holds. -/
inductive Leaf where
  | text (value : String)
  | integer (value : Int)
  | boolean (value : Bool)
  | texts (values : List String)
  deriving DecidableEq, Repr

/-- A list of two or more elements has a line for each. -/
def writtenList : List String → String
  | [] => "[]"
  | [element] => "[" ++ element ++ "]"
  | elements => "[\n" ++ String.join (elements.map fun element => "    " ++ element ++ ",\n") ++ "]"

def Leaf.written : Leaf → String
  | .text value => quoted value
  | .integer value => toString value
  | .boolean value => if value then "true" else "false"
  | .texts values => writtenList (values.map quoted)

/-- A table of a document: the path to it and its entries. -/
structure Section where
  path : List String
  entries : List (String × Leaf)
  deriving DecidableEq, Repr

/-- The line that opens a table; the root has none. -/
def headerLine : List String → String
  | [] => ""
  | path => "[" ++ ".".intercalate (path.map writtenName) ++ "]\n"

def Section.written (table : Section) : String :=
  headerLine table.path ++ String.join (table.entries.map fun (name, leaf) =>
    writtenName name ++ " = " ++ leaf.written ++ "\n")

/-- A document of tables with a blank line before each but the first. -/
def written (tables : List Section) : String := "\n".intercalate (tables.map Section.written)

end ClusterRest.Toml
