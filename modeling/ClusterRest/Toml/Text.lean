import ClusterRest.Bytes
import ClusterRest.Text.Ascii

/-! TOML strings: in double quotes with escapes, in single quotes without, each on one line or many. -/

namespace ClusterRest.Toml

/-- Characters that stand for themselves in every string and in comments. -/
def isPlain (character : Char) : Bool :=
  character = '\t' || (' ' ≤ character && character ≠ '\x7f')

def isBlank (character : Char) : Bool := character = ' ' || character = '\t'

def escaped? : Char → Option Char
  | 'b' => some '\x08'
  | 't' => some '\t'
  | 'n' => some '\n'
  | 'f' => some '\x0c'
  | 'r' => some '\r'
  | '"' => some '"'
  | '\\' => some '\\'
  | _ => none

def hexNumber? (digits : List Char) : Option Nat :=
  digits.foldlM (fun number digit => do
    return 16 * number + (← Bytes.ofHexDigit? digit).toNat) 0

/-- The character with a number in hexadecimal digits. -/
def scalar? (digits : List Char) : Option Char := do
  let code ← hexNumber? digits
  if code.isValidChar then some (Char.ofNat code) else none

/-- Puts a character before the content that a reader found. -/
def within (character : Char) (read : Option (List Char × List Char)) :
    Option (List Char × List Char) :=
  read.map fun (content, rest) => (character :: content, rest)

/-- Characters of names without quotes. -/
def isBareChar (character : Char) : Bool :=
  Text.isAsciiAlphanumeric character || character = '_' || character = '-'

/-- The content of a string in double quotes, after the first quote, and what follows it. -/
def basicText : List Char → Option (List Char × List Char)
  | [] => none
  | '"' :: rest => some ([], rest)
  | '\\' :: 'u' :: a :: b :: c :: d :: rest => do
    within (← scalar? [a, b, c, d]) (basicText rest)
  | '\\' :: 'U' :: a :: b :: c :: d :: e :: f :: g :: h :: rest => do
    within (← scalar? [a, b, c, d, e, f, g, h]) (basicText rest)
  | '\\' :: mark :: rest => do within (← escaped? mark) (basicText rest)
  | character :: rest =>
    if isPlain character then within character (basicText rest) else none

/-- The content of a string in single quotes. -/
def literalText : List Char → Option (List Char × List Char)
  | [] => none
  | '\'' :: rest => some ([], rest)
  | character :: rest =>
    if isPlain character then within character (literalText rest) else none

/-- Where a reader of a long string stands: in its content, after a backslash that has to end the
line, or in the blanks of the lines after it. -/
inductive Place where
  | content
  | beforeLineEnd
  | afterLineEnd
  deriving DecidableEq, Repr

/-- The content of a string in three double quotes; up to two quotes may come before the last
three. -/
def longBasicText : Place → List Char → Option (List Char × List Char)
  | _, [] => none
  | .beforeLineEnd, character :: rest =>
    if isBlank character then longBasicText .beforeLineEnd rest
    else match character, rest with
      | '\n', rest => longBasicText .afterLineEnd rest
      | '\r', '\n' :: rest => longBasicText .afterLineEnd rest
      | _, _ => none
  | .afterLineEnd, ' ' :: rest => longBasicText .afterLineEnd rest
  | .afterLineEnd, '\t' :: rest => longBasicText .afterLineEnd rest
  | .afterLineEnd, '\n' :: rest => longBasicText .afterLineEnd rest
  | .afterLineEnd, '\r' :: '\n' :: rest => longBasicText .afterLineEnd rest
  | _, '"' :: '"' :: '"' :: '"' :: '"' :: rest => some (['"', '"'], rest)
  | _, '"' :: '"' :: '"' :: '"' :: rest => some (['"'], rest)
  | _, '"' :: '"' :: '"' :: rest => some ([], rest)
  | _, '"' :: rest => within '"' (longBasicText .content rest)
  | _, '\\' :: 'u' :: a :: b :: c :: d :: rest => do
    within (← scalar? [a, b, c, d]) (longBasicText .content rest)
  | _, '\\' :: 'U' :: a :: b :: c :: d :: e :: f :: g :: h :: rest => do
    within (← scalar? [a, b, c, d, e, f, g, h]) (longBasicText .content rest)
  | _, '\\' :: mark :: rest =>
    match escaped? mark with
    | some character => within character (longBasicText .content rest)
    | none => longBasicText .beforeLineEnd (mark :: rest)
  | _, '\n' :: rest => within '\n' (longBasicText .content rest)
  | _, '\r' :: '\n' :: rest => within '\n' (longBasicText .content rest)
  | _, character :: rest =>
    if isPlain character then within character (longBasicText .content rest) else none

/-- The content of a string in three single quotes. -/
def longLiteralText : List Char → Option (List Char × List Char)
  | [] => none
  | '\'' :: '\'' :: '\'' :: '\'' :: '\'' :: rest => some (['\'', '\''], rest)
  | '\'' :: '\'' :: '\'' :: '\'' :: rest => some (['\''], rest)
  | '\'' :: '\'' :: '\'' :: rest => some ([], rest)
  | '\n' :: rest => within '\n' (longLiteralText rest)
  | '\r' :: '\n' :: rest => within '\n' (longLiteralText rest)
  | character :: rest =>
    if isPlain character then within character (longLiteralText rest) else none

/-- A long string leaves out a line end right after its first quotes. -/
def dropLineEnd : List Char → List Char
  | '\n' :: rest => rest
  | '\r' :: '\n' :: rest => rest
  | text => text

/-- A string on one line. -/
def shortString? : List Char → Option (List Char × List Char)
  | '"' :: rest => basicText rest
  | '\'' :: rest => literalText rest
  | _ => none

/-- A string of any kind. -/
def string? : List Char → Option (List Char × List Char)
  | '"' :: '"' :: '"' :: rest => longBasicText .content (dropLineEnd rest)
  | '\'' :: '\'' :: '\'' :: rest => longLiteralText (dropLineEnd rest)
  | text => shortString? text

end ClusterRest.Toml
