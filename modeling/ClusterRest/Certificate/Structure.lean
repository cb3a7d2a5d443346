import ClusterRest.Bytes

/-! The outer structure of a certificate in its distinguished encoding. -/

namespace ClusterRest.Certificate

/-- One element: a tag and its content. -/
structure Element where
  tag : UInt8
  content : Bytes
  deriving DecidableEq, Repr

def sequenceTag : UInt8 := 0x30
def integerTag : UInt8 := 0x02
def bitStringTag : UInt8 := 0x03
def versionTag : UInt8 := 0xA0
def extensionsTag : UInt8 := 0xA3

def numberOf (bytes : Bytes) : Nat := bytes.foldl (fun number byte => 256 * number + byte.toNat) 0

/-- The length of an element and what follows; the shortest form is the only one. -/
def readLength : Bytes → Option (Nat × Bytes)
  | [] => none
  | first :: rest =>
    if first < 0x80 then some (first.toNat, rest)
    else
      let count := first.toNat - 0x80
      let length := numberOf (rest.take count)
      if count = 0 || 4 < count || rest.length < count then none
      else if length < 0x80 || length < Nat.pow 256 (count - 1) then none
      else some (length, rest.drop count)

def readElement : Bytes → Option (Element × Bytes)
  | [] => none
  | tag :: rest => do
    if tag % 0x20 == 0x1F then none
    let (length, rest) ← readLength rest
    if rest.length < length then none
    return (⟨tag, rest.take length⟩, rest.drop length)

def readTagged (tag : UInt8) (input : Bytes) : Option (Bytes × Bytes) := do
  let (element, rest) ← readElement input
  if element.tag == tag then some (element.content, rest) else none

/-- The content of an element that is all there is. -/
def readOnly (tag : UInt8) (input : Bytes) : Option Bytes := do
  match ← readTagged tag input with
  | (content, []) => some content
  | _ => none

def skipSequences : (count : Nat) → Bytes → Option Bytes
  | 0, input => some input
  | count + 1, input => do skipSequences count (← readTagged sequenceTag input).2

/-- The version, if it is given, has to be the third. -/
def readVersion (input : Bytes) : Option (Bool × Bytes) :=
  match readTagged versionTag input with
  | none => some (false, input)
  | some (content, rest) =>
    if readOnly integerTag content = some [2] then some (true, rest) else none

/-- The signed part: version, serial number, the algorithm of the signature once more, issuer,
validity, subject and key, and extensions in the third version only. -/
def readSigned (algorithm input : Bytes) : Option Unit := do
  let (isThird, rest) ← readVersion input
  let (_, rest) ← readTagged integerTag rest
  let (present, rest) ← readTagged sequenceTag rest
  if present != algorithm then none
  let rest ← skipSequences 4 rest
  if rest.isEmpty then return ()
  if !isThird then none
  discard (readOnly sequenceTag (← readOnly extensionsTag rest))

def read (input : Bytes) : Option Unit := do
  let (signed, rest) ← readTagged sequenceTag (← readOnly sequenceTag input)
  let (algorithm, rest) ← readTagged sequenceTag rest
  discard (readOnly bitStringTag rest)
  readSigned algorithm signed

def isWellFormed (input : Bytes) : Bool := (read input).isSome

end ClusterRest.Certificate
