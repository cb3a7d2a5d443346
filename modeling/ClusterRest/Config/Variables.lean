import ClusterRest.Config.Setting
import ClusterRest.Text.Blank
import ClusterRest.Text.Pieces
import ClusterRest.Text.Reader
import ClusterRest.Toml.Text

/-! Settings from environment variables. -/

namespace ClusterRest

open Text Reader

/-- The values of variables by name. -/
abbrev Variables := List (String × String)

namespace Variables

def find? (name : String) (environment : Variables) : Option String := environment.lookup name

def settingPrefix : String := "ONEFS_"

/-- Two underscores together part a name as a dot does. -/
def dotted : List Char → List Char
  | '_' :: '_' :: rest => '.' :: dotted rest
  | character :: rest => character :: dotted rest
  | [] => []

/-- The rest of a name after the prefix, in whatever case that is written. -/
def afterPrefix? (name : String) : Option String :=
  let start := name.toList.take settingPrefix.length
  if sameIgnoringCase (.ofList start) settingPrefix then
    some (.ofList (name.toList.drop settingPrefix.length))
  else none

/-- The path of the setting that a variable gives. -/
def path? (name : String) : Option (List String) := do
  let rest ← afterPrefix? (trim name)
  let path := pieces '.' (asciiLower (.ofList (dotted (trim rest).toList)))
  if path.any String.isEmpty then none else some path

/-- Blanks around the parts of a value. -/
def isGap (character : Char) : Bool := " \t\n\x0c\r".toList.contains character

def skipGap : Reader Unit := discard (takeAll isGap)

/-- Characters that end a value without quotes. -/
def isSeparator (character : Char) : Bool := ",\x7b\x7d[]".toList.contains character

def unsignedLimit : Nat := Nat.pow 2 64 - 1

/-- The magnitude of a negative number, at most one more than that of a positive one. -/
def negativeLimit : Nat := Nat.pow 2 63

/-- The number that a word writes: with a point a float, else a whole one if it fits a word. -/
def number? (word : List Char) : Option Scalar :=
  match if word.contains '.' then Decimal.Extended.parse? word else none with
  | some value => some (.float value)
  | none =>
    match boundedNat? unsignedLimit word, word with
    | some value, _ => some (.unsigned value)
    | none, '-' :: digit :: digits =>
      if digit = '+' then none
      else (boundedNat? negativeLimit (digit :: digits)).map fun value => .signed (-value)
    | none, _ => none

def wordValue (characters : List Char) : Scalar :=
  let word := trimChars characters
  (number? word).getD (.text (.ofList word))

/-- A string in double quotes, whose first quote is taken. -/
def quotedText : Reader String := do
  match Toml.basicText (← get) with
  | some (content, rest) =>
    set rest
    return .ofList content
  | none => failure

/-- One character in single quotes, the first of which is taken. -/
def quotedChar : Reader String := do
  match ← get with
  | character :: '\'' :: rest =>
    set rest
    return String.singleton character
  | _ => failure

def memberName : Reader String := do
  if ← take '"' then quotedText
  else
    let name ← takeAll Toml.isBareChar
    if name.isEmpty then failure
    return .ofList name

/-- The elements of a list after its bracket. -/
def elements (element : Reader Setting) : (fuel : Nat) → Reader (List Setting)
  | 0 => failure
  | fuel + 1 => do
    if ← take ']' then return []
    let first ← element
    if ← take ',' then return first :: (← elements element fuel)
    expect ']'
    return [first]

/-- The members of a table after its brace; of two with one name the later stands. -/
def members (element : Reader Setting) : (fuel : Nat) → Settings → Reader Settings
  | 0, _ => failure
  | fuel + 1, earlier => do
    if ← take '\x7d' then return earlier
    skipGap
    let name ← memberName
    skipGap
    expect '='
    let both := earlier.put name (← element)
    if ← take ',' then members element fuel both
    else
      expect '\x7d'
      return both

def scalar (value : Scalar) : Setting := .scalar .environment value

/-- A value nested less deep than `depth`. -/
def value : (depth : Nat) → Reader Setting
  | 0 => failure
  | depth + 1 => do
    skipGap
    let text ← get
    let fuel := text.length + 1
    let value ← match text with
      | 't' :: 'r' :: 'u' :: 'e' :: rest =>
        set rest
        pure (scalar (.boolean true))
      | 'f' :: 'a' :: 'l' :: 's' :: 'e' :: rest =>
        set rest
        pure (scalar (.boolean false))
      | '\x7b' :: rest =>
        set rest
        pure (.table .environment (← members (value depth) fuel []))
      | '[' :: rest =>
        set rest
        pure (.list .environment (← elements (value depth) fuel))
      | '"' :: rest =>
        set rest
        pure (scalar (.text (← quotedText)))
      | '\'' :: rest =>
        set rest
        pure (scalar (.text (← quotedChar)))
      | _ => pure (scalar (wordValue (← takeAll (!isSeparator ·))))
    skipGap
    return value

/-- The setting that a variable's text writes; a text of another form stands for itself. -/
def settingOf (text : String) : Setting :=
  match (value (text.length + 1)).run text.toList with
  | some (setting, []) => setting
  | _ => scalar (.text text)

/-- The settings that variables give, each over the ones before it. -/
def settings (environment : Variables) : Settings :=
  environment.foldl (fun earlier (name, text) =>
    match path? name with
    | some (first :: path) =>
      Setting.mergeInto earlier [(first, Setting.nest .environment (settingOf text) path)]
    | _ => earlier) []

end Variables

end ClusterRest
