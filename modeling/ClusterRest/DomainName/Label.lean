import ClusterRest.DomainName.Normalization
import ClusterRest.DomainName.Punycode
import ClusterRest.DomainName.MappingTable
import ClusterRest.DomainName.DirectionTable
import ClusterRest.DomainName.JoiningTable

/-! Which labels a domain name may have: letters in context and writing direction. -/

namespace ClusterRest.DomainName

open Text

abbrev Label := List Nat

def tableHas (table : CodeTable) (code : Nat) : Bool := (table.row? code).isSome

/-- The text that takes the place of a code point; `none` where the code point is not admitted. -/
def replace? (code : Nat) : Option (List Nat) :=
  match replacements.row? code with
  | some ⟨first, _, [target]⟩ => some [target + (code - first)]
  | some row => some row.values
  | none => if tableHas permitted code then some [code] else none

def zeroWidthNonJoiner : Nat := 0x200C
def zeroWidthJoiner : Nat := 0x200D
def viramaClass : Nat := 9

/-- A non-joiner between letters that would join, marks passed over. -/
def breaksJoining (before after : List Nat) : Bool :=
  let previous := (before.dropWhile (tableHas joinsThrough)).head?
  let next := (after.dropWhile (tableHas joinsThrough)).head?
  previous.any (fun code => tableHas joinsLeft code || tableHas joinsBoth code) &&
    next.any (fun code => tableHas joinsRight code || tableHas joinsBoth code)

/-- Joiners stand after a virama, non-joiners also where they break a join. `before` is reversed. -/
def joinersFit (before : List Nat) : List Nat → Bool
  | [] => true
  | code :: after =>
    let afterVirama := before.head?.any fun previous => combiningClass previous == viramaClass
    (code != zeroWidthJoiner || afterVirama) &&
      (code != zeroWidthNonJoiner || afterVirama || breaksJoining before after) &&
      joinersFit (code :: before) after

def isRightToLeft (code : Nat) : Bool := tableHas rightToLeft code || tableHas arabicLetter code

def isNumberNeutral (code : Nat) : Bool :=
  tableHas europeanNumber code || tableHas europeanSeparator code || tableHas commonSeparator code ||
    tableHas europeanTerminator code || tableHas otherNeutral code || tableHas boundaryNeutral code ||
    tableHas nonspacingMark code

/-- The direction rule for a label of a domain name that has right-to-left text somewhere. -/
def directionFits (label : Label) : Bool :=
  match label with
  | [] => true
  | first :: _ =>
    let final := (label.reverse.dropWhile (tableHas nonspacingMark)).head?
    if isRightToLeft first then
      label.all (fun code =>
        isRightToLeft code || tableHas arabicNumber code || isNumberNeutral code) &&
      final.any (fun code =>
        isRightToLeft code || tableHas arabicNumber code || tableHas europeanNumber code) &&
      !(label.any (tableHas europeanNumber) && label.any (tableHas arabicNumber))
    else if tableHas leftToRight first then
      label.all (fun code => tableHas leftToRight code || isNumberNeutral code) &&
      final.any (fun code => tableHas leftToRight code || tableHas europeanNumber code)
    else false

def hasRightToLeft (label : Label) : Bool :=
  label.any fun code => isRightToLeft code || tableHas arabicNumber code

/-- A label in its final characters: no mark in front, and joiners only where they may stand. -/
def isWellFormed (label : Label) : Bool :=
  !(label.head?.any (tableHas marks)) && joinersFit [] label

end ClusterRest.DomainName
