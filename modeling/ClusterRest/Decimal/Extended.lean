import ClusterRest.Decimal.Shortest
import ClusterRest.Text.Ascii

/-! Floating-point numbers with infinities and the value that is no number. -/

namespace ClusterRest.Decimal

open Text

inductive Extended where
  | finite (value : Binary64)
  | infinite (isNegative : Bool)
  | notANumber
  deriving DecidableEq, Repr, Inhabited

namespace Extended

/-- Powers of ten from here on are beyond every finite number. -/
def hugePower : Int := 400

/-- The nearest number to `digits · 10 ^ exponent`, and infinity beyond the range. -/
def ofDecimal (isNegative : Bool) (digits : Nat) (exponent : Int) : Extended :=
  let size : Int := Scaled.digitCount digits + exponent
  if digits = 0 || size < -hugePower then .finite (.zero isNegative)
  else if hugePower < size then .infinite isNegative
  else match Binary64.ofDecimal? isNegative digits exponent with
    | some value => .finite value
    | none => .infinite isNegative

/-- Positional, or the name of what is not finite. -/
def toText : Extended → String
  | .finite value => value.toPlainText
  | .infinite false => "inf"
  | .infinite true => "-inf"
  | .notANumber => "NaN"

/-- A sign before a numeral, and the numeral. -/
def cutSign : List Char → Bool × List Char
  | '+' :: rest => (false, rest)
  | '-' :: rest => (true, rest)
  | numeral => (false, numeral)

def exponent? (numeral : List Char) : Option Int :=
  let (isNegative, digits) := cutSign numeral
  if digits.isEmpty || !digits.all isDigit then none
  else
    let magnitude : Int := decimalOfDigits digits
    some (if isNegative then -magnitude else magnitude)

def isExponentMark (character : Char) : Bool := character = 'e' || character = 'E'

/-- A numeral of digits with at most one point among them, and perhaps an exponent. -/
def ofNumeral? (isNegative : Bool) (numeral : List Char) : Option Extended := do
  let mantissa := numeral.takeWhile (!isExponentMark ·)
  let exponent ← match numeral.drop mantissa.length with
    | [] => some 0
    | _ :: rest => exponent? rest
  let whole := mantissa.takeWhile (· ≠ '.')
  let fraction := (mantissa.drop whole.length).drop 1
  let digits := whole ++ fraction
  if digits.isEmpty || !digits.all isDigit then none
  return ofDecimal isNegative (decimalOfDigits digits) (exponent - fraction.length)

def infinityNames : List String := ["inf", "infinity"]
def notANumberName : String := "nan"

/-- A signed numeral, or the name of infinity or of no number in any case. -/
def parse? (text : List Char) : Option Extended :=
  let (isNegative, numeral) := cutSign text
  let name := asciiLower (String.ofList numeral)
  if infinityNames.contains name then some (.infinite isNegative)
  else if name = notANumberName then some .notANumber
  else ofNumeral? isNegative numeral

end Extended

end ClusterRest.Decimal
