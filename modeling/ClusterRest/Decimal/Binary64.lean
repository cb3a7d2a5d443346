/-! Finite binary floating-point numbers of 64 bits, with exact rounding. -/

namespace ClusterRest.Decimal

/-- The number `± significand · 2 ^ exponent`, with at most 53 bits in the significand. -/
structure Binary64 where
  isNegative : Bool
  significand : Nat
  exponent : Int
  deriving DecidableEq, Repr, Inhabited

namespace Binary64

def leastExponent : Int := -1074
def greatestExponent : Int := 971

def zero (isNegative : Bool) : Binary64 := ⟨isNegative, 0, leastExponent⟩

def negate (number : Binary64) : Binary64 := { number with isNegative := !number.isNegative }

def isZero (number : Binary64) : Bool := number.significand == 0

/-- The magnitude as a numerator and a denominator. -/
def ratio (number : Binary64) : Nat × Nat :=
  (number.significand * Nat.pow 2 number.exponent.toNat, Nat.pow 2 (-number.exponent).toNat)

/-- The quotient rounded to the nearest integer, a half to the even one. -/
def divideToEven (numerator denominator : Nat) : Nat :=
  let quotient := numerator / denominator
  let twice := 2 * (numerator % denominator)
  if twice > denominator || (twice = denominator && quotient % 2 = 1) then quotient + 1
  else quotient

/-- The exponent that leaves 53 bits of a positive ratio, or the least one there is. -/
def exponentFor (numerator denominator : Nat) : Int :=
  let estimate : Int := (numerator.log2 : Int) - (denominator.log2 : Int)
  let isBelow :=
    numerator * Nat.pow 2 (-estimate).toNat < denominator * Nat.pow 2 estimate.toNat
  max leastExponent ((if isBelow then estimate - 1 else estimate) - 52)

/-- The nearest number to a ratio, a tie to the even significand; `none` beyond the range. -/
def ofRatio? (isNegative : Bool) (numerator denominator : Nat) : Option Binary64 :=
  if numerator = 0 then some (zero isNegative)
  else
    let exponent := exponentFor numerator denominator
    let rounded := divideToEven (numerator * Nat.pow 2 (-exponent).toNat)
      (denominator * Nat.pow 2 exponent.toNat)
    let (significand, exponent) :=
      if rounded = Nat.pow 2 53 then (Nat.pow 2 52, exponent + 1) else (rounded, exponent)
    if exponent > greatestExponent then none else some ⟨isNegative, significand, exponent⟩

def ofNat? (number : Nat) : Option Binary64 := ofRatio? false number 1

def mul? (first second : Binary64) : Option Binary64 :=
  ofRatio? (first.isNegative != second.isNegative)
    (first.ratio.1 * second.ratio.1) (first.ratio.2 * second.ratio.2)

/-- The rounded quotient; `none` also for a zero divisor. -/
def div? (first second : Binary64) : Option Binary64 :=
  if second.isZero then none
  else ofRatio? (first.isNegative != second.isNegative)
    (first.ratio.1 * second.ratio.2) (first.ratio.2 * second.ratio.1)

/-- The nearest number to `digits · 10 ^ exponent`. -/
def ofDecimal? (isNegative : Bool) (digits : Nat) (exponent : Int) : Option Binary64 :=
  ofRatio? isNegative (digits * Nat.pow 10 exponent.toNat) (Nat.pow 10 (-exponent).toNat)

end Binary64

end ClusterRest.Decimal
