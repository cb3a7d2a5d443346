/-! ASCII classes, case and numerals. -/

namespace ClusterRest.Text

def lowerAscii (character : Char) : Char :=
  if 'A' ≤ character && character ≤ 'Z' then Char.ofNat (character.toNat + 32) else character

def upperAscii (character : Char) : Char :=
  if 'a' ≤ character && character ≤ 'z' then Char.ofNat (character.toNat - 32) else character

def asciiUpper (text : String) : String := text.map upperAscii

def asciiLower (text : String) : String := text.map lowerAscii

/-- Equality up to the case of ASCII letters. -/
def sameIgnoringCase (first second : String) : Bool := asciiLower first == asciiLower second

def isAsciiLetter (character : Char) : Bool :=
  ('a' ≤ character && character ≤ 'z') || ('A' ≤ character && character ≤ 'Z')

def isDigit (character : Char) : Bool := '0' ≤ character && character ≤ '9'

def isAsciiAlphanumeric (character : Char) : Bool := isAsciiLetter character || isDigit character

def isHexDigit (character : Char) : Bool :=
  isDigit character || ('a' ≤ character && character ≤ 'f') || ('A' ≤ character && character ≤ 'F')

/-- The number that a string of decimal digits writes; other characters count as zero. -/
def decimalOfDigits (digits : List Char) : Nat :=
  digits.foldl (fun number digit => 10 * number + (digit.toNat - '0'.toNat)) 0

/-- A natural number up to `limit`: digits with at most one plus sign before them. -/
def boundedNat? (limit : Nat) (characters : List Char) : Option Nat :=
  let digits := match characters with
    | '+' :: rest => rest
    | _ => characters
  if digits.isEmpty || !digits.all isDigit then none
  else if decimalOfDigits digits ≤ limit then some (decimalOfDigits digits) else none

end ClusterRest.Text
