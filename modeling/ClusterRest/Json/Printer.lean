import ClusterRest.Json.Value

/-! JSON texts: compact, and indented by two spaces. -/

namespace ClusterRest.Json

def hexPair (code : Nat) : List Char :=
  ['0', '0', Nat.digitChar (code / 16), Nat.digitChar (code % 16)]

/-- A character inside a string: quotes, backslashes and controls are escaped. -/
def escapeChar (character : Char) : List Char :=
  match character with
  | '"' => ['\\', '"']
  | '\\' => ['\\', '\\']
  | '\x08' => ['\\', 'b']
  | '\x0c' => ['\\', 'f']
  | '\n' => ['\\', 'n']
  | '\r' => ['\\', 'r']
  | '\t' => ['\\', 't']
  | _ => if character < ' ' then '\\' :: 'u' :: hexPair character.toNat else [character]

def stringChars (text : String) : List Char :=
  '"' :: (text.toList.flatMap escapeChar ++ ['"'])

def numberText : Number → String
  | .natural value => toString value
  | .negative magnitude => "-" ++ toString magnitude
  | .floating value => value.toJsonText

mutual

/-- The compact text of a value. -/
def compactChars : Value → List Char
  | .null => "null".toList
  | .bool value => (if value then "true" else "false").toList
  | .number value => (numberText value).toList
  | .string value => stringChars value
  | .array elements => '[' :: (compactElements elements ++ [']'])
  | .object members => '{' :: (compactMembers members ++ ['}'])

def compactElements : List Value → List Char
  | [] => []
  | [element] => compactChars element
  | element :: rest => compactChars element ++ ',' :: compactElements rest

def compactMembers : List (String × Value) → List Char
  | [] => []
  | [(name, value)] => stringChars name ++ ':' :: compactChars value
  | (name, value) :: rest =>
    stringChars name ++ ':' :: (compactChars value ++ ',' :: compactMembers rest)

end

def Value.compact (value : Value) : String := .ofList (compactChars value)

def newline (depth : Nat) : List Char := '\n' :: List.replicate (2 * depth) ' '

mutual

/-- The indented text of a value that stands at a depth of nesting. -/
def prettyChars (depth : Nat) : Value → List Char
  | .null => "null".toList
  | .bool value => (if value then "true" else "false").toList
  | .number value => (numberText value).toList
  | .string value => stringChars value
  | .array [] => ['[', ']']
  | .array elements =>
    '[' :: (prettyElements (depth + 1) elements ++ newline depth ++ [']'])
  | .object [] => ['{', '}']
  | .object members =>
    '{' :: (prettyMembers (depth + 1) members ++ newline depth ++ ['}'])

def prettyElements (depth : Nat) : List Value → List Char
  | [] => []
  | [element] => newline depth ++ prettyChars depth element
  | element :: rest =>
    newline depth ++ prettyChars depth element ++ ',' :: prettyElements depth rest

def prettyMembers (depth : Nat) : List (String × Value) → List Char
  | [] => []
  | [(name, value)] => newline depth ++ stringChars name ++ ": ".toList ++ prettyChars depth value
  | (name, value) :: rest =>
    newline depth ++ stringChars name ++ ": ".toList ++ prettyChars depth value ++
      ',' :: prettyMembers depth rest

end

def Value.pretty (value : Value) : String := .ofList (prettyChars 0 value)

end ClusterRest.Json
