/-! Punycode: labels of any script written with letters, digits and hyphens. -/

namespace ClusterRest.DomainName.Punycode

def base : Nat := 36
def lowThreshold : Nat := 1
def highThreshold : Nat := 26
def skew : Nat := 38
def damping : Nat := 700
def initialBias : Nat := 72
def initialCode : Nat := 128

def digitChar (digit : Nat) : Char :=
  Char.ofNat (if digit < 26 then 'a'.toNat + digit else '0'.toNat + (digit - 26))

def digitOfChar? (character : Char) : Option Nat :=
  if 'a' ≤ character && character ≤ 'z' then some (character.toNat - 'a'.toNat)
  else if 'A' ≤ character && character ≤ 'Z' then some (character.toNat - 'A'.toNat)
  else if '0' ≤ character && character ≤ '9' then some (character.toNat - '0'.toNat + 26)
  else none

def threshold (position bias : Nat) : Nat :=
  max lowThreshold (min highThreshold (position - bias))

def reduce (delta position : Nat) : Nat :=
  if delta > (base - lowThreshold) * highThreshold / 2 then
    reduce (delta / (base - lowThreshold)) (position + base)
  else position + (base - lowThreshold + 1) * delta / (delta + skew)
termination_by delta
decreasing_by simp [base, lowThreshold] at *; omega

def adapt (delta count : Nat) (isFirst : Bool) : Nat :=
  let scaled := if isFirst then delta / damping else delta / 2
  reduce (scaled + scaled / count) 0

theorem threshold_pos (position bias : Nat) : 1 ≤ threshold position bias := by
  unfold threshold lowThreshold
  omega

theorem threshold_le (position bias : Nat) : threshold position bias ≤ 26 := by
  unfold threshold lowThreshold highThreshold
  omega

/-- The digits of a distance, least significant first. -/
def distanceDigits (distance position bias : Nat) : List Char :=
  let limit := threshold position bias
  if distance < limit then [digitChar distance]
  else digitChar (limit + (distance - limit) % (base - limit)) ::
    distanceDigits ((distance - limit) / (base - limit)) (position + base) bias
termination_by distance
decreasing_by
  have positive := threshold_pos position bias
  have bounded := threshold_le position bias
  have smaller := Nat.div_le_self (distance - threshold position bias)
    (base - threshold position bias)
  omega

structure Encoder where
  delta : Nat
  bias : Nat
  handled : Nat
  written : List Char

/-- Writes the places of one code point; `code` is the least one that is not yet written. -/
def Encoder.place (basicCount code : Nat) (encoder : Encoder) (character : Nat) : Encoder :=
  if character < code then { encoder with delta := encoder.delta + 1 }
  else if character = code then
    { delta := 0
      bias := adapt encoder.delta (encoder.handled + 1) (encoder.handled == basicCount)
      handled := encoder.handled + 1
      written := encoder.written ++ distanceDigits encoder.delta base encoder.bias }
  else encoder

def encodeCodes (label : List Nat) (basicCount : Nat) : Nat → List Nat → Encoder → List Char
  | _, [], encoder => encoder.written
  | next, code :: codes, encoder =>
    let reached := { encoder with delta := encoder.delta + (code - next) * (encoder.handled + 1) }
    let placed := label.foldl (Encoder.place basicCount code) reached
    encodeCodes label basicCount (code + 1) codes { placed with delta := placed.delta + 1 }

def insertSorted (code : Nat) : List Nat → List Nat
  | [] => [code]
  | next :: rest =>
    if code < next then code :: next :: rest
    else if code = next then next :: rest
    else next :: insertSorted code rest

def encode (label : List Nat) : List Char :=
  let basic := label.filter (· < initialCode)
  let written := basic.map Char.ofNat ++ if basic.isEmpty then [] else ['-']
  let codes := (label.filter (initialCode ≤ ·)).foldr insertSorted []
  encodeCodes label basic.length initialCode codes ⟨0, initialBias, basic.length, written⟩

/-- Reads one distance and what follows it; `none` where the digits end early or leave 32 bits. -/
def readDistance (bias : Nat) : List Char → Nat → Nat → Nat → Option (Nat × List Char)
  | [], _, _, _ => none
  | character :: rest, position, weight, distance => do
    let digit ← digitOfChar? character
    let distance := distance + digit * weight
    if distance ≥ Nat.pow 2 32 then none
    else
      let limit := threshold position bias
      if digit < limit then some (distance, rest)
      else if weight * (base - limit) ≥ Nat.pow 2 32 then none
      else readDistance bias rest (position + base) (weight * (base - limit)) distance

def isScalar (code : Nat) : Bool := code < 0xD800 || (0xE000 ≤ code && code ≤ 0x10FFFF)

/-- Inserts the code points that the digits place into a label; `fuel` bounds their number. -/
def insertCodes : (fuel : Nat) → List Char → (code place bias : Nat) → List Nat → Option (List Nat)
  | 0, digits, _, _, _, label => if digits.isEmpty then some label else none
  | fuel + 1, digits, code, place, bias, label =>
    if digits.isEmpty then some label
    else do
      let (distance, rest) ← readDistance bias digits base 1 0
      let count := label.length + 1
      let reached := place + distance
      let next := code + reached / count
      let index := reached % count
      if !isScalar next then none
      let label := label.take index ++ [next] ++ label.drop index
      insertCodes fuel rest next (index + 1) (adapt distance count (place == 0)) label

def decode (text : List Char) : Option (List Nat) :=
  let tail := (text.reverse.takeWhile (· != '-')).reverse
  let basic := (text.take (text.length - tail.length - 1)).map Char.toNat
  if basic.all (· < initialCode) then
    insertCodes tail.length tail initialCode 0 initialBias basic
  else none

end ClusterRest.DomainName.Punycode
