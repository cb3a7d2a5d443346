import ClusterRest.DomainName.CompositionTable

/-! Canonical composition of text. -/

namespace ClusterRest.DomainName

open Text

def combiningClass (code : Nat) : Nat :=
  match combiningClasses.row? code with
  | some ⟨_, _, [number]⟩ => number
  | _ => 0

namespace Hangul

def syllables : Nat := 0xAC00
def leads : Nat := 0x1100
def vowels : Nat := 0x1161
def trails : Nat := 0x11A7

def isSyllable (code : Nat) : Bool := syllables ≤ code && code < syllables + 11172

def decompose (code : Nat) : List Nat :=
  let index := code - syllables
  let trail := index % 28
  [leads + index / 588, vowels + index % 588 / 28] ++ if trail = 0 then [] else [trails + trail]

def compose? (first second : Nat) : Option Nat :=
  if leads ≤ first && first < leads + 19 && vowels ≤ second && second < vowels + 21 then
    some (syllables + ((first - leads) * 21 + (second - vowels)) * 28)
  else if isSyllable first && (first - syllables) % 28 = 0 && trails < second &&
      second < trails + 28 then
    some (first + (second - trails))
  else none

end Hangul

def decompose (code : Nat) : List Nat :=
  if Hangul.isSyllable code then Hangul.decompose code
  else match decompositions.row? code with
    | some row => row.values
    | none => [code]

def compose? (first second : Nat) : Option Nat :=
  match Hangul.compose? first second with
  | some code => some code
  | none => (composites.find? fun row =>
      row.first = first && row.values.head? == some second).bind (·.values[1]?)

/-- Puts each run of combining marks into the order of their classes, keeping equal classes in
place. -/
def insertByClass (code : Nat) : List Nat → List Nat
  | [] => [code]
  | next :: rest =>
    if combiningClass code != 0 && combiningClass next != 0 &&
        combiningClass next < combiningClass code then next :: insertByClass code rest
    else code :: next :: rest

def canonicalOrder (codes : List Nat) : List Nat := codes.foldr insertByClass []

/-- Text under composition: what is finished, the last starter, and the marks that follow it. -/
structure Composition where
  finished : List Nat
  starter : Option Nat
  marks : List Nat

namespace Composition

def codes (composition : Composition) : List Nat :=
  composition.finished ++ composition.starter.toList ++ composition.marks

/-- A code point joins the starter unless a mark of its own class or a higher one stands between. -/
def push (composition : Composition) (code : Nat) : Composition :=
  let number := combiningClass code
  let blocked := match composition.marks.getLast? with
    | none => false
    | some mark => number ≤ combiningClass mark
  match composition.starter.bind fun starter => if blocked then none else compose? starter code with
  | some joined => { composition with starter := some joined }
  | none =>
    if number = 0 then ⟨composition.codes, some code, []⟩
    else { composition with marks := composition.marks ++ [code] }

end Composition

/-- The canonical composition of a text. -/
def normalize (codes : List Nat) : List Nat :=
  ((canonicalOrder (codes.flatMap decompose)).foldl Composition.push ⟨[], none, []⟩).codes

end ClusterRest.DomainName
