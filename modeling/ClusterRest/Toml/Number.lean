import ClusterRest.Toml.Moment
import ClusterRest.Toml.Value

/-! Numerals, names of values, and moments: all that TOML writes without quotes or brackets. -/

namespace ClusterRest.Toml

open Text
open Decimal (Extended)

/-- The digits of a numeral whose underscores each stand between two of them. -/
def ungrouped? (isDigit : Char → Bool) : List Char → Option (List Char)
  | [] => none
  | [digit] => if isDigit digit then some [digit] else none
  | digit :: '_' :: rest => do
    if isDigit digit then return digit :: (← ungrouped? isDigit rest) else none
  | digit :: rest => do
    if isDigit digit then return digit :: (← ungrouped? isDigit rest) else none

/-- Decimal digits without a zero before others. -/
def wholeDigits? (numeral : List Char) : Option (List Char) := do
  let digits ← ungrouped? isDigit numeral
  match numeral with
  | '0' :: _ :: _ => none
  | _ => some digits

def digitValue (character : Char) : Nat :=
  if isDigit character then character.toNat - '0'.toNat
  else (lowerAscii character).toNat - 'a'.toNat + 10

def numberIn (base : Nat) (digits : List Char) : Nat :=
  digits.foldl (fun number digit => base * number + digitValue digit) 0

def isOctalDigit (character : Char) : Bool := '0' ≤ character && character ≤ '7'
def isBinaryDigit (character : Char) : Bool := character = '0' || character = '1'

def integer? : List Char → Option Int
  | '0' :: 'x' :: rest => do return (numberIn 16 (← ungrouped? isHexDigit rest) : Nat)
  | '0' :: 'o' :: rest => do return (numberIn 8 (← ungrouped? isOctalDigit rest) : Nat)
  | '0' :: 'b' :: rest => do return (numberIn 2 (← ungrouped? isBinaryDigit rest) : Nat)
  | numeral => do
    let (isNegative, unsigned) := Extended.cutSign numeral
    let magnitude : Int := decimalOfDigits (← wholeDigits? unsigned)
    return if isNegative then -magnitude else magnitude

/-- A numeral with a fraction or an exponent or both, in ungrouped form. -/
def plainNumeral? (numeral : List Char) : Option (List Char) := do
  let mantissa := numeral.takeWhile (!Extended.isExponentMark ·)
  let whole := mantissa.takeWhile (· ≠ '.')
  let digits ← wholeDigits? whole
  let fraction ← match mantissa.drop whole.length with
    | [] => some []
    | _ :: rest => (ungrouped? isDigit rest).map ('.' :: ·)
  let exponent ← match numeral.drop mantissa.length with
    | [] => some []
    | _ :: rest =>
      let (isNegative, power) := Extended.cutSign rest
      (ungrouped? isDigit power).map fun digits =>
        'e' :: (if isNegative then ['-'] else []) ++ digits
  if fraction.isEmpty && exponent.isEmpty then none
  return digits ++ fraction ++ exponent

/-- A floating-point number; a positive one has to be in range. -/
def float? (text : List Char) : Option Extended := do
  let (isNegative, numeral) := Extended.cutSign text
  if numeral = "inf".toList then some (.infinite isNegative)
  else if numeral = "nan".toList then some .notANumber
  else match ← Extended.ofNumeral? isNegative (← plainNumeral? numeral) with
    | .infinite false => none
    | number => some number

/-- The value of a word. -/
def word? (word : List Char) : Option Value :=
  if word = "true".toList then some (.boolean true)
  else if word = "false".toList then some (.boolean false)
  else match moment? word with
    | some text => some (.moment (.ofList text))
    | none =>
      match float? word with
      | some number => some (.float number)
      | none => do
        let number ← integer? word
        if fits number then some (.integer number) else none

end ClusterRest.Toml
