import ClusterRest.Decimal.Binary64

/-! The fewest decimal digits that read back as the same number. -/

namespace ClusterRest.Decimal

/-- The decimal `digits · 10 ^ exponent`. -/
structure Scaled where
  digits : Nat
  exponent : Int
  deriving DecidableEq, Repr

namespace Scaled

/-- The number of decimal digits; zero has none. -/
def digitCount (number : Nat) : Nat := if number = 0 then 0 else (Nat.toDigits 10 number).length

/-- The exponent of the leading decimal digit of a positive ratio. -/
def leadingExponent (numerator denominator : Nat) : Int :=
  if denominator ≤ numerator then (digitCount (numerator / denominator) : Int) - 1
  else -(digitCount ((denominator - 1) / numerator) : Int)

/-- The distance of a decimal from a ratio, times both denominators. -/
def distance (numerator denominator : Nat) (decimal : Scaled) : Nat :=
  let left := decimal.digits * Nat.pow 10 decimal.exponent.toNat * denominator
  let right := numerator * Nat.pow 10 (-decimal.exponent).toNat
  if left ≤ right then right - left else left - right

def readsBack (number : Binary64) (decimal : Scaled) : Bool :=
  Binary64.ofDecimal? number.isNegative decimal.digits decimal.exponent == some number

/-- The nearer of the two decimals of `count` digits around a number, if it reads back. -/
def candidate? (number : Binary64) (count : Nat) : Option Scaled :=
  let (numerator, denominator) := number.ratio
  let exponent := leadingExponent numerator denominator - (count : Int) + 1
  let below := numerator * Nat.pow 10 (-exponent).toNat / (denominator * Nat.pow 10 exponent.toNat)
  let candidates := ([⟨below, exponent⟩, ⟨below + 1, exponent⟩] : List Scaled).filter
    (readsBack number)
  match candidates with
  | [] => none
  | [only] => some only
  | lower :: upper :: _ =>
    let low := distance numerator denominator lower
    let high := distance numerator denominator upper
    some (if low < high || (low = high && lower.digits % 2 = 0) then lower else upper)

/-- The shortest decimal that reads back as a number; no number needs more than 17 digits. -/
def shortest (number : Binary64) : Scaled :=
  ((List.range 17).findSome? fun index => candidate? number (index + 1)).getD
    ⟨0, 0⟩

def digitChars (decimal : Scaled) : List Char := Nat.toDigits 10 decimal.digits

/-- The power of ten before the first digit: the value is `0.digits · 10 ^ point`. -/
def point (decimal : Scaled) : Int := decimal.digitChars.length + decimal.exponent

/-- The digits with a decimal point in place; `whole` is what a value without fraction ends in. -/
def positional (whole : String) (decimal : Scaled) : String :=
  let digits := decimal.digitChars
  let point := decimal.point
  if point ≤ 0 then
    "0." ++ String.ofList (List.replicate (-point).toNat '0' ++ digits)
  else if point.toNat < digits.length then
    String.ofList (digits.take point.toNat) ++ "." ++ String.ofList (digits.drop point.toNat)
  else String.ofList (digits ++ List.replicate (point.toNat - digits.length) '0') ++ whole

/-- One digit, the other digits as a fraction, and a signed exponent. -/
def scientific (decimal : Scaled) : String :=
  let exponent := decimal.point - 1
  let fraction := decimal.digitChars.drop 1
  String.ofList (decimal.digitChars.take 1) ++
    (if fraction.isEmpty then "" else "." ++ String.ofList fraction) ++
    (if exponent < 0 then "e-" else "e+") ++ toString exponent.natAbs

/-- The decimal without zeros at its end. -/
def strip (decimal : Scaled) : Scaled :=
  let zeros := (decimal.digitChars.reverse.takeWhile (· == '0')).length
  if decimal.digits = 0 then decimal
  else ⟨decimal.digits / Nat.pow 10 zeros, decimal.exponent + zeros⟩

end Scaled

namespace Binary64

def signText (number : Binary64) : String := if number.isNegative then "-" else ""

/-- Positional with a fraction from `1e-5` up to `1e16`, else scientific. -/
def toJsonText (number : Binary64) : String :=
  let text :=
    if number.isZero then "0.0"
    else
      let decimal := (Scaled.shortest number).strip
      if -5 < decimal.point && decimal.point ≤ 16 then decimal.positional ".0"
      else decimal.scientific
  number.signText ++ text

/-- Always positional, and without a fraction where there is none. -/
def toPlainText (number : Binary64) : String :=
  number.signText ++
    if number.isZero then "0" else ((Scaled.shortest number).strip).positional ""

end Binary64

end ClusterRest.Decimal
