import ClusterRest.DomainName.Label

/-! Domain names in ASCII form. Main function: `toAscii?`. -/

namespace ClusterRest.DomainName

open Text

/-- ASCII characters that may not stand in the host of a URL. -/
def isForbidden (code : Nat) : Bool :=
  code ≤ 0x20 || code == 0x7F ||
    ['%', '#', '/', ':', '<', '>', '?', '@', '[', '\\', ']', '^', '|'].any (·.toNat == code)

def encodedMark : List Nat := "xn--".toList.map Char.toNat

/-- A label after mapping, with the form in which it is written. -/
structure PreparedLabel where
  codes : Label
  written : List Char

def charsOfCodes (codes : List Nat) : List Char := codes.map Char.ofNat

/-- Opens a label that is already encoded, or encodes one that is not ASCII. -/
def prepare? (label : Label) : Option PreparedLabel :=
  if encodedMark.isPrefixOf label then do
    if !label.all (· < 0x80) then none
    let codes ← Punycode.decode (charsOfCodes (label.drop 4))
    let isAdmitted := codes.all (fun code => tableHas permitted code && code != '.'.toNat)
    if codes.all (· < 0x80) || !isAdmitted || normalize codes != codes || !isWellFormed codes then
      none
    return ⟨codes, charsOfCodes label⟩
  else if label.all (· < 0x80) then some ⟨label, charsOfCodes label⟩
  else if isWellFormed label then
    some ⟨label, "xn--".toList ++ Punycode.encode label⟩
  else none

def splitLabels : List Nat → List Label
  | [] => [[]]
  | code :: rest =>
    if code = '.'.toNat then [] :: splitLabels rest
    else match splitLabels rest with
      | [] => [[code]]
      | label :: labels => (code :: label) :: labels

def joinLabels : List (List Char) → List Char
  | [] => []
  | [label] => label
  | label :: labels => label ++ '.' :: joinLabels labels

/-- The ASCII form of a domain name: characters are mapped and composed, and each label that is not
ASCII is encoded. `none` where a character or a label is not admitted; controls and spaces are
refused at once. -/
def toAscii? (characters : List Char) : Option (List Char) := do
  if characters.any (· ≤ ' ') then none
  let mapped ← characters.mapM fun character => replace? character.toNat
  let codes := normalize mapped.flatten
  if codes.any isForbidden then none
  let labels ← (splitLabels codes).mapM prepare?
  if labels.any (hasRightToLeft ·.codes) && !labels.all (directionFits ·.codes) then none
  return joinLabels (labels.map (·.written))

end ClusterRest.DomainName
