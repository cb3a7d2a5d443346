import ClusterRest.Duration.Basic
import ClusterRest.Text.Quoted
import ClusterRest.Text.Ascii
import ClusterRest.Text.Blank

/-! Reading durations such as `1h 30m` or `2.5 days`. -/

namespace ClusterRest.Duration

open Text

/-- Why a text is no duration; places are byte offsets. -/
inductive ReadError where
  | empty
  | numberExpected (offset : Nat)
  | invalidCharacter (offset : Nat)
  | unitNeeded (number : Nat)
  | unknownUnit (name : String)
  | notRepresentable
  deriving DecidableEq, Repr

def ReadError.message : ReadError → String
  | .empty => "value was empty"
  | .numberExpected offset => "expected number at " ++ toString offset
  | .invalidCharacter offset => "invalid character at " ++ toString offset
  | .unitNeeded number =>
    "time unit needed, for example " ++ toString number ++ "sec or " ++ toString number ++ "ms"
  | .unknownUnit name =>
    "unknown time unit " ++ quote name ++ ", supported units: ns, us/µs, ms, sec, min, hours, " ++
      "days, weeks, months, years (and few variations)"
  | .notRepresentable =>
    "number is too large or cannot be represented without a lack of precision " ++
      "(values below 1ns are not supported)"

/-- A unit counts whole nanoseconds or whole seconds. -/
inductive TimeUnit where
  | ofNanos (count : Nat)
  | ofSeconds (count : Nat)
  deriving DecidableEq, Repr

def timeUnit? (name : String) : Option TimeUnit :=
  if ["nanos", "nsec", "ns"].contains name then some (.ofNanos 1)
  else if ["usec", "us", "µs"].contains name then some (.ofNanos 1000)
  else if ["millis", "msec", "ms"].contains name then some (.ofNanos 1000000)
  else if ["seconds", "second", "secs", "sec", "s"].contains name then some (.ofSeconds 1)
  else if ["minutes", "minute", "min", "mins", "m"].contains name then some (.ofSeconds 60)
  else if ["hours", "hour", "hrs", "hr", "h"].contains name then some (.ofSeconds 3600)
  else if ["days", "day", "d"].contains name then some (.ofSeconds secondsPerDay)
  else if ["weeks", "week", "wks", "wk", "w"].contains name then
    some (.ofSeconds (7 * secondsPerDay))
  else if ["months", "month", "M"].contains name then some (.ofSeconds secondsPerMonth)
  else if ["years", "year", "yrs", "yr", "y"].contains name then some (.ofSeconds secondsPerYear)
  else none

/-- The digits after a point: `numerator / denominator`. -/
structure Fraction where
  numerator : Nat
  denominator : Nat
  deriving DecidableEq, Repr

def wordLimit : Nat := Nat.pow 2 64

/-- A result that fits 64 bits. -/
def fitting (number : Nat) : Except ReadError Nat :=
  if number < wordLimit then .ok number else .error .notRepresentable

def divideExactly (number divisor : Nat) : Except ReadError Nat :=
  if number % divisor = 0 then .ok (number / divisor) else .error .notRepresentable

/-- Adds seconds and nanoseconds to a duration; each sum has to fit 64 bits. -/
def extend (duration : Duration) (seconds nanos : Nat) : Except ReadError Duration := do
  let nanos ← fitting (duration.subsecondNanos + nanos)
  let total := ofParts (duration.seconds + seconds) nanos
  let _ ← fitting total.seconds
  return total

def addWhole (duration : Duration) (number : Nat) : TimeUnit → Except ReadError Duration
  | .ofNanos count => do duration.extend 0 (← fitting (number * count))
  | .ofSeconds count => do duration.extend (← fitting (number * count)) 0

/-- Adds a fraction of a unit, which has to be whole in nanoseconds up to the minute and whole in
seconds beyond it. -/
def addFraction (duration : Duration) (fraction : Fraction) : TimeUnit → Except ReadError Duration
  | .ofNanos count => do
    if count = 1 then throw .notRepresentable
    duration.extend 0 (← divideExactly (← fitting (fraction.numerator * count)) fraction.denominator)
  | .ofSeconds count => do
    if count ≤ 60 then
      let nanos ← fitting (fraction.numerator * (count * nanosPerSecond))
      duration.extend 0 (← divideExactly nanos fraction.denominator)
    else
      let seconds ← fitting (fraction.numerator * count)
      duration.extend (← divideExactly seconds fraction.denominator) 0

/-- A number and its unit, as far as they are read. -/
structure Term where
  number : Nat
  fraction : Option Fraction
  letters : List Char

def Term.addTo (term : Term) (duration : Duration) : Except ReadError Duration := do
  let name := String.ofList term.letters
  match timeUnit? name with
  | none => throw (if name.isEmpty then .unitNeeded term.number else .unknownUnit name)
  | some timeUnit =>
    let duration ← duration.addWhole term.number timeUnit
    match term.fraction with
    | none => return duration
    | some fraction => duration.addFraction fraction timeUnit

def isUnitLetter (character : Char) : Bool := isAsciiLetter character || character = 'µ'

def digitOf (character : Char) : Nat := character.toNat - '0'.toNat

def appendDigit (number : Nat) (character : Char) : Except ReadError Nat :=
  fitting (number * 10 + digitOf character)

/-- What of a term is being read. -/
inductive Stage where
  | start
  | whole (number : Nat)
  | fraction (number : Nat) (fraction : Fraction) (errorOffset : Nat)
  | letters (term : Term)

def closeFraction (fraction : Fraction) (errorOffset : Nat) : Except ReadError Fraction :=
  if fraction.denominator = 1 then .error (.invalidCharacter errorOffset) else .ok fraction

/-- Reads characters from a byte offset on. The offset of a missing number is that of the blanks
before it, which `gap` remembers. -/
def readFrom : List Char → (offset gap : Nat) → Stage → Duration → Except ReadError Duration
  | [], _, _, .start, duration => .ok duration
  | [], _, _, .whole number, duration => Term.addTo ⟨number, none, []⟩ duration
  | [], _, _, .fraction number fraction errorOffset, duration => do
    let fraction ← closeFraction fraction errorOffset
    Term.addTo ⟨number, some fraction, []⟩ duration
  | [], _, _, .letters term, duration => term.addTo duration
  | character :: rest, offset, gap, stage, duration =>
    let next := offset + character.utf8Size
    match stage with
    | .start =>
      if isDigit character then readFrom rest next gap (.whole (digitOf character)) duration
      else if isBlank character then readFrom rest next gap .start duration
      else .error (.numberExpected gap)
    | .whole number =>
      if isDigit character then do
        let number ← appendDigit number character
        readFrom rest next gap (.whole number) duration
      else if isBlank character then readFrom rest next gap (.whole number) duration
      else if isUnitLetter character then
        readFrom rest next gap (.letters ⟨number, none, [character]⟩) duration
      else if character = '.' then
        readFrom rest next gap (.fraction number ⟨0, 1⟩ offset) duration
      else .error (.invalidCharacter offset)
    | .fraction number fraction errorOffset =>
      if isDigit character then do
        let denominator ← fitting (fraction.denominator * 10)
        let numerator ← appendDigit fraction.numerator character
        readFrom rest next gap (.fraction number ⟨numerator, denominator⟩ next) duration
      else if isBlank character then
        readFrom rest next gap (.fraction number fraction next) duration
      else if isUnitLetter character then do
        let fraction ← closeFraction fraction errorOffset
        readFrom rest next gap (.letters ⟨number, some fraction, [character]⟩) duration
      else .error (.invalidCharacter errorOffset)
    | .letters term =>
      if isDigit character then do
        let duration ← term.addTo duration
        readFrom rest next gap (.whole (digitOf character)) duration
      else if isBlank character then do
        let duration ← term.addTo duration
        readFrom rest next next .start duration
      else if isUnitLetter character then
        readFrom rest next gap (.letters { term with letters := term.letters ++ [character] })
          duration
      else .error (.invalidCharacter offset)

/-- Reads a sum of numbers with units. -/
def parse (text : String) : Except ReadError Duration :=
  if isAllBlank text then .error .empty
  else readFrom text.toList 0 0 .start ⟨0⟩

end ClusterRest.Duration
