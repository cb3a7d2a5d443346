import ClusterRest.Html.ReferenceTable
import ClusterRest.Text.Ascii

/-! Character references. -/

namespace ClusterRest.Html

open Text

/-- What the numbers from 0x80 to 0x9F stand for, where that is not the code point itself. -/
def legacyNumbers : CodeTable := .ofText
  "80:20AC 82:201A 83:192 84:201E 85:2026 86:2020 87:2021 88:2C6 89:2030 8A:160 8B:2039 8C:152 
   8E:17D 91:2018 92:2019 93:201C 94:201D 95:2022 96:2013 97:2014 98:2DC 99:2122 9A:161 9B:203A 
   9C:153 9E:17E 9F:178"

def replacementCharacter : Char := '\uFFFD'

/-- The character of a numeric reference. -/
def characterOfNumber (number : Nat) : Char :=
  if number = 0 || number > 0x10FFFF || (0xD800 ≤ number && number ≤ 0xDFFF) then
    replacementCharacter
  else match (legacyNumbers.row? number).bind (·.values.head?) with
    | some code => Char.ofNat code
    | none => Char.ofNat number

def passSemicolon : List Char → List Char
  | ';' :: rest => rest
  | rest => rest

def numberIn (base : Nat) (digits : List Char) : Nat :=
  digits.foldl (fun number digit => base * number + ((Bytes.ofHexDigit? digit).getD 0).toNat) 0

def numericReference? (base : Nat) (isDigitHere : Char → Bool) (input : List Char) :
    Option (List Char × List Char) :=
  let digits := input.takeWhile isDigitHere
  if digits.isEmpty then none
  else some ([characterOfNumber (numberIn base digits)],
    passSemicolon (input.dropWhile isDigitHere))

/-- The reference with the longest name at the front of a text. -/
def longestNamed? (input : List Char) : Option NamedReference :=
  (namedReferences.filter (·.name.isPrefixOf input)).foldl (fun best reference =>
    match best with
    | none => some reference
    | some other => some (if other.name.length < reference.name.length then reference else other))
    none

/-- Inside an attribute, a name without semicolon is plain text before `=`, a letter or a digit. -/
def namedReference? (inAttribute : Bool) (input : List Char) : Option (List Char × List Char) :=
  match longestNamed? input with
  | none => none
  | some reference =>
    let rest := input.drop reference.name.length
    let goesOn := rest.head?.any fun next => next = '=' || isAsciiAlphanumeric next
    if inAttribute && reference.name.getLast? != some ';' && goesOn then none
    else some (reference.characters, rest)

/-- The characters of the reference after an ampersand and what follows it, if there is one. -/
def reference? (inAttribute : Bool) (input : List Char) : Option (List Char × List Char) :=
  match input with
  | '#' :: 'x' :: rest => numericReference? 16 isHexDigit rest
  | '#' :: 'X' :: rest => numericReference? 16 isHexDigit rest
  | '#' :: rest => numericReference? 10 isDigit rest
  | _ => namedReference? inAttribute input

/-- An attribute's text with its references replaced. `skip` characters belong to a reference that
is replaced already. -/
def decodeAttribute : (skip : Nat) → List Char → List Char
  | _, [] => []
  | skip + 1, _ :: rest => decodeAttribute skip rest
  | 0, character :: rest =>
    if character = '&' then
      match reference? true rest with
      | some (characters, after) => characters ++ decodeAttribute (rest.length - after.length) rest
      | none => '&' :: decodeAttribute 0 rest
    else (if character = '\x00' then replacementCharacter else character) :: decodeAttribute 0 rest

end ClusterRest.Html
