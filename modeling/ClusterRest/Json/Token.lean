import ClusterRest.Json.Fault

/-! Strings and numbers of JSON texts. -/

namespace ClusterRest.Json

open Decimal

/-- A reader takes bytes from the front of a text. -/
abbrev Reader := StateT Bytes (Except Fault)

/-- Fails at the present place. -/
def failHere {α : Type} (cause : Cause) : Reader α := fun rest =>
  .error ⟨cause, rest.length⟩

/-- Fails at the next byte, if there is one. -/
def failNext {α : Type} (cause : Cause) : Reader α := fun rest =>
  .error ⟨cause, rest.length - 1⟩

def isSpace (byte : UInt8) : Bool := byte == 0x20 || byte == 0x0A || byte == 0x09 || byte == 0x0D

/-- Skips blanks and shows the next byte. -/
def peek : Reader (Option UInt8) := fun rest =>
  let rest := rest.dropWhile isSpace
  .ok (rest.head?, rest)

def skipByte : Reader Unit := fun rest => .ok ((), rest.drop 1)

/-! ### Strings -/

def quoteByte : UInt8 := 0x22
def backslashByte : UInt8 := 0x5C

/-- The character that a one-letter escape stands for. -/
def simpleEscape? (letter : UInt8) : Option Char :=
  if letter == 0x22 then some '"'
  else if letter == 0x5C then some '\\'
  else if letter == 0x2F then some '/'
  else if letter == 0x62 then some '\x08'
  else if letter == 0x66 then some '\x0c'
  else if letter == 0x6E then some '\n'
  else if letter == 0x72 then some '\r'
  else if letter == 0x74 then some '\t'
  else none

/-- Four hexadecimal digits as a number. -/
def hexEscape (bytes : Bytes) : Except Fault (Nat × Bytes) :=
  match bytes with
  | first :: second :: third :: fourth :: rest =>
    match [first, second, third, fourth].mapM fun byte =>
        Bytes.ofHexDigit? (Char.ofNat byte.toNat) with
    | some digits => .ok (digits.foldl (fun number digit => 16 * number + digit.toNat) 0, rest)
    | none => .error ⟨.invalidEscape, rest.length⟩
  | _ => .error ⟨.endInString, 0⟩

def isLeadingSurrogate (code : Nat) : Bool := 0xD800 ≤ code && code ≤ 0xDBFF
def isTrailingSurrogate (code : Nat) : Bool := 0xDC00 ≤ code && code ≤ 0xDFFF

def surrogatePair (leading trailing : Nat) : Char :=
  Char.ofNat ((leading - 0xD800) * 0x400 + (trailing - 0xDC00) + 0x10000)

/-- The second half of a surrogate pair: another hexadecimal escape. -/
def trailingEscape (leading : Nat) (bytes : Bytes) : Except Fault (Char × Bytes) :=
  match bytes with
  | [] => .error ⟨.endInString, 0⟩
  | slash :: rest =>
    if slash != backslashByte then .error ⟨.endOfHexEscape, rest.length⟩
    else match rest with
      | [] => .error ⟨.endInString, 0⟩
      | letter :: rest =>
        if letter != 0x75 then .error ⟨.endOfHexEscape, rest.length⟩
        else match hexEscape rest with
          | .error fault => .error fault
          | .ok (trailing, rest) =>
            if isTrailingSurrogate trailing then .ok (surrogatePair leading trailing, rest)
            else .error ⟨.loneSurrogate, rest.length⟩

/-- The character of the escape after a backslash. -/
def escape (bytes : Bytes) : Except Fault (Char × Bytes) :=
  match bytes with
  | [] => .error ⟨.endInString, 0⟩
  | letter :: rest =>
    if letter == 0x75 then
      match hexEscape rest with
      | .error fault => .error fault
      | .ok (code, rest) =>
        if isTrailingSurrogate code then .error ⟨.loneSurrogate, rest.length⟩
        else if isLeadingSurrogate code then trailingEscape code rest
        else .ok (Char.ofNat code, rest)
    else match simpleEscape? letter with
      | some character => .ok (character, rest)
      | none => .error ⟨.invalidEscape, rest.length⟩

/-- The bytes of a string after its opening quote; `skip` bytes belong to an escape that is read
already. -/
def stringBytes : (skip : Nat) → Bytes → Except Fault (Bytes × Bytes)
  | _, [] => .error ⟨.endInString, 0⟩
  | skip + 1, _ :: rest => stringBytes skip rest
  | 0, byte :: rest =>
    if byte == quoteByte then .ok ([], rest)
    else if byte == backslashByte then
      match escape rest with
      | .error fault => .error fault
      | .ok (character, after) =>
        match stringBytes (rest.length - after.length) rest with
        | .error fault => .error fault
        | .ok (content, rest) => .ok (Bytes.ofChars [character] ++ content, rest)
    else if byte < 0x20 then .error ⟨.controlCharacter, rest.length⟩
    else match stringBytes 0 rest with
      | .error fault => .error fault
      | .ok (content, rest) => .ok (byte :: content, rest)

/-- The number of bytes before the first that begins no character. -/
def validLength (bytes : Bytes) : Nat :=
  (Bytes.ofChars (((Bytes.scanUtf8 bytes).takeWhile (·.isSome)).filterMap id)).length

/-- A string after its opening quote. Bytes that are no character are noticed at the first of them. -/
def stringTail : Reader String := fun bytes =>
  match stringBytes 0 bytes with
  | .error fault => .error fault
  | .ok (content, rest) =>
    match Bytes.toString? content with
    | some text => .ok (text, rest)
    | none => .error ⟨.invalidUnicode, bytes.length - (validLength bytes + 1)⟩

/-- The escape after a backslash in a string that nobody reads: surrogates need no partner. -/
def skippedEscape (bytes : Bytes) : Except Fault Bytes :=
  match bytes with
  | [] => .error ⟨.endInString, 0⟩
  | letter :: rest =>
    if letter == 0x75 then (hexEscape rest).map (·.2)
    else if (simpleEscape? letter).isSome then .ok rest
    else .error ⟨.invalidEscape, rest.length⟩

/-- Skips a string after its opening quote. -/
def skipStringFrom : (skip : Nat) → Bytes → Except Fault Bytes
  | _, [] => .error ⟨.endInString, 0⟩
  | skip + 1, _ :: rest => skipStringFrom skip rest
  | 0, byte :: rest =>
    if byte == quoteByte then .ok rest
    else if byte == backslashByte then
      match skippedEscape rest with
      | .error fault => .error fault
      | .ok after => skipStringFrom (rest.length - after.length) rest
    else if byte < 0x20 then .error ⟨.controlCharacter, rest.length + 1⟩
    else skipStringFrom 0 rest

def skipStringTail : Reader Unit := fun bytes => (skipStringFrom 0 bytes).map ((), ·)

/-! ### Numbers -/

def isDigitByte (byte : UInt8) : Bool := 0x30 ≤ byte && byte ≤ 0x39

def digitValue (byte : UInt8) : Nat := byte.toNat - 0x30

def greatestNatural : Nat := Nat.pow 2 64 - 1

/-- Appends digits to a significand as long as it fits 64 bits; also counts the digits taken. -/
def appendDigits (significand : Nat) : List UInt8 → Nat × Nat
  | [] => (significand, 0)
  | digit :: rest =>
    let next := significand * 10 + digitValue digit
    if next > greatestNatural then (significand, 0)
    else
      let (final, taken) := appendDigits next rest
      (final, taken + 1)

def powerOfTen? (exponent : Nat) : Option Binary64 := Binary64.ofNat? (Nat.pow 10 exponent)

def greatestPower : Nat := 308

/-- Divides by the greatest power of ten again and again, until nothing is left. -/
def divideOften : Nat → Binary64 → Option Binary64
  | 0, number => some number
  | steps + 1, number =>
    if number.isZero then some number
    else ((powerOfTen? greatestPower).bind number.div?).bind (divideOften steps)

/-- Divides by a power of ten, in steps of the greatest one there is. -/
def divideByPower (number : Binary64) (exponent : Nat) : Option Binary64 :=
  let steps := (exponent - 1) / greatestPower
  (divideOften steps number).bind fun scaled =>
    if scaled.isZero then some scaled
    else (powerOfTen? (exponent - steps * greatestPower)).bind scaled.div?

/-- The number `significand · 10 ^ exponent`: one rounding for the significand, one for the scale. -/
def scale? (significand : Nat) (exponent : Int) : Option Binary64 :=
  (Binary64.ofNat? significand).bind fun number =>
    if exponent < 0 then divideByPower number exponent.natAbs
    else if exponent.natAbs ≤ greatestPower then
      (powerOfTen? exponent.natAbs).bind number.mul?
    else if number.isZero then some number
    else none

def signed (isNegative : Bool) (number : Binary64) : Number :=
  .floating (if isNegative then number.negate else number)

def floating (isNegative : Bool) (significand : Nat) (exponent : Int) : Reader Number :=
  match scale? significand exponent with
  | some number => pure (signed isNegative number)
  | none => failHere .numberOutOfRange

def greatestExponentText : Nat := Nat.pow 2 31 - 1

/-- How many digits of an exponent fit 32 bits, sign included. -/
def fittingExponent (exponent : Nat) : List UInt8 → Nat × Nat
  | [] => (exponent, 0)
  | digit :: rest =>
    let next := exponent * 10 + digitValue digit
    if next > greatestExponentText then (exponent, 0)
    else
      let (final, taken) := fittingExponent next rest
      (final, taken + 1)

def exponentSign : Reader Bool := fun bytes =>
  match bytes with
  | 0x2B :: rest => .ok (false, rest)
  | 0x2D :: rest => .ok (true, rest)
  | _ => .ok (false, bytes)

/-- The digits at the front of the text. -/
def takeDigits : Reader (List UInt8) := fun bytes =>
  .ok (bytes.takeWhile isDigitByte, bytes.dropWhile isDigitByte)

/-- The exponent after its letter. -/
def exponentTail (isNegative : Bool) (significand : Nat) (scale : Int) : Reader Number := do
  let isBelow ← exponentSign
  match ← get with
  | [] => failHere .endInValue
  | first :: rest =>
    if !isDigitByte first then
      set rest
      failHere .invalidNumber
    else
      let digits ← takeDigits
      let (exponent, taken) := fittingExponent 0 digits
      if taken = digits.length then
        floating isNegative significand (if isBelow then scale - exponent else scale + exponent)
      else if significand != 0 && !isBelow then
        set (rest.drop taken)
        failHere .numberOutOfRange
      else return signed isNegative (Binary64.zero false)

def isExponentMark (byte : UInt8) : Bool := byte == 0x65 || byte == 0x45

/-- The fraction after its point. -/
def fractionTail (isNegative : Bool) (significand : Nat) (scale : Int) : Reader Number := do
  let digits ← takeDigits
  if digits.isEmpty then
    if (← get).isEmpty then failHere .endInValue else failNext .invalidNumber
  else
    let (significand, taken) := appendDigits significand digits
    let scale := scale - taken
    if (← get).head?.any isExponentMark then
      skipByte
      exponentTail isNegative significand scale
    else floating isNegative significand scale

def integer (isNegative : Bool) (significand : Nat) : Number :=
  if !isNegative then .natural significand
  else if significand = 0 then .floating (Binary64.zero true)
  else if significand ≤ Nat.pow 2 63 then .negative significand
  else signed true ((Binary64.ofNat? significand).getD (Binary64.zero false))

/-- A number after its sign. -/
def numberTail (isNegative : Bool) : Reader Number := do
  match ← get with
  | [] => failHere .endInValue
  | first :: rest =>
    if !isDigitByte first then
      set rest
      failHere .invalidNumber
    else
      let digits ← if first == 0x30 then (do skipByte; pure [first]) else takeDigits
      if first == 0x30 && (← get).head?.any isDigitByte then failNext .invalidNumber
      else
        let (significand, taken) := appendDigits 0 digits
        let dropped : Int := digits.length - taken
        match (← get).head? with
        | some 0x2E =>
          skipByte
          fractionTail isNegative significand dropped
        | some byte =>
          if isExponentMark byte then
            skipByte
            exponentTail isNegative significand dropped
          else if dropped = 0 then return integer isNegative significand
          else floating isNegative significand dropped
        | none =>
          if dropped = 0 then return integer isNegative significand
          else floating isNegative significand dropped

/-- Skips an exponent after its letter. -/
def skipExponent : Reader Unit := do
  let _ ← exponentSign
  match ← get with
  | [] => failHere .invalidNumber
  | first :: rest =>
    if !isDigitByte first then
      set rest
      failHere .invalidNumber
    else
      let _ ← takeDigits
      return ()

def skipFractionAndExponent : Reader Unit := do
  match (← get).head? with
  | some 0x2E =>
    skipByte
    let digits ← takeDigits
    if digits.isEmpty then failNext .invalidNumber
    else if (← get).head?.any isExponentMark then
      skipByte
      skipExponent
    else return ()
  | some byte =>
    if isExponentMark byte then
      skipByte
      skipExponent
    else return ()
  | none => return ()

/-- Skips a number after its sign; its size is of no concern. -/
def skipNumberTail : Reader Unit := do
  match ← get with
  | [] => failHere .invalidNumber
  | first :: rest =>
    if !isDigitByte first then
      set rest
      failHere .invalidNumber
    else if first == 0x30 then
      skipByte
      if (← get).head?.any isDigitByte then failNext .invalidNumber
      else skipFractionAndExponent
    else
      let _ ← takeDigits
      skipFractionAndExponent

/-- The rest of a literal whose first letter is read. -/
def literalTail : List UInt8 → Reader Unit
  | [] => pure ()
  | expected :: more => do
    match ← get with
    | [] => failHere .endInValue
    | byte :: rest =>
      set rest
      if byte == expected then literalTail more else failHere .expectedIdent

end ClusterRest.Json
