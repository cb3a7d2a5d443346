/-! Byte strings, their UTF-8 reading and their hexadecimal form. -/

namespace ClusterRest

abbrev Bytes := List UInt8

namespace Bytes

/-- The UTF-8 form of a list of characters. -/
def ofChars (characters : List Char) : Bytes := characters.flatMap String.utf8EncodeChar

def ofString (text : String) : Bytes := ofChars text.toList

def isContinuation (byte : UInt8) : Bool := 0x80 ≤ byte && byte ≤ 0xBF

/-- The bits of a byte under a mask, moved to their place in a code point. -/
def payload (byte : UInt8) (mask : UInt8) (shift : Nat) : Nat :=
  (byte &&& mask).toNat * Nat.pow 2 shift

/-- The range of second bytes that a lead byte of three or four bytes admits. -/
def secondByteFits (lead second : UInt8) : Bool :=
  isContinuation second &&
    (lead != 0xE0 || 0xA0 ≤ second) && (lead != 0xED || second ≤ 0x9F) &&
    (lead != 0xF0 || 0x90 ≤ second) && (lead != 0xF4 || second ≤ 0x8F)

/-- Reads UTF-8; `none` stands for each maximal run of bytes that begins no character. -/
def scanUtf8 : Bytes → List (Option Char)
  | [] => []
  | lead :: rest =>
    if lead < 0x80 then some (Char.ofNat lead.toNat) :: scanUtf8 rest
    else if 0xC2 ≤ lead && lead ≤ 0xDF then
      match rest with
      | second :: rest =>
        if isContinuation second then
          some (Char.ofNat (payload lead 0x1F 6 + payload second 0x3F 0)) :: scanUtf8 rest
        else none :: scanUtf8 (second :: rest)
      | [] => [none]
    else if 0xE0 ≤ lead && lead ≤ 0xEF then
      match rest with
      | second :: rest =>
        if secondByteFits lead second then
          match rest with
          | third :: rest =>
            if isContinuation third then
              some (Char.ofNat (payload lead 0x0F 12 + payload second 0x3F 6 + payload third 0x3F 0))
                :: scanUtf8 rest
            else none :: scanUtf8 (third :: rest)
          | [] => [none]
        else none :: scanUtf8 (second :: rest)
      | [] => [none]
    else if 0xF0 ≤ lead && lead ≤ 0xF4 then
      match rest with
      | second :: rest =>
        if secondByteFits lead second then
          match rest with
          | third :: rest =>
            if isContinuation third then
              match rest with
              | fourth :: rest =>
                if isContinuation fourth then
                  some (Char.ofNat (payload lead 0x07 18 + payload second 0x3F 12 +
                    payload third 0x3F 6 + payload fourth 0x3F 0)) :: scanUtf8 rest
                else none :: scanUtf8 (fourth :: rest)
              | [] => [none]
            else none :: scanUtf8 (third :: rest)
          | [] => [none]
        else none :: scanUtf8 (second :: rest)
      | [] => [none]
    else none :: scanUtf8 rest

/-- The text of a byte string that is UTF-8 throughout. -/
def toString? (bytes : Bytes) : Option String := (scanUtf8 bytes).mapM id |>.map String.ofList

/-- The text of a byte string, with U+FFFD for what is not UTF-8. -/
def toStringLossy (bytes : Bytes) : String :=
  String.ofList ((scanUtf8 bytes).map (·.getD '\uFFFD'))

def ofHexDigit? (character : Char) : Option UInt8 :=
  if '0' ≤ character && character ≤ '9' then some (UInt8.ofNat (character.toNat - '0'.toNat))
  else if 'a' ≤ character && character ≤ 'f' then
    some (UInt8.ofNat (character.toNat - 'a'.toNat + 10))
  else if 'A' ≤ character && character ≤ 'F' then
    some (UInt8.ofNat (character.toNat - 'A'.toNat + 10))
  else none

def hexDigit (digit : UInt8) : Char :=
  Char.ofNat (if digit < 10 then '0'.toNat + digit.toNat else 'a'.toNat + digit.toNat - 10)

def upperHexDigit (digit : UInt8) : Char :=
  Char.ofNat (if digit < 10 then '0'.toNat + digit.toNat else 'A'.toNat + digit.toNat - 10)

def toHex (bytes : Bytes) : String :=
  String.ofList (bytes.flatMap fun byte => [hexDigit (byte / 16), hexDigit (byte % 16)])

def ofHexChars? : List Char → Option Bytes
  | [] => some []
  | [_] => none
  | high :: low :: rest => do
    let high ← ofHexDigit? high
    let low ← ofHexDigit? low
    return (16 * high + low) :: (← ofHexChars? rest)

def ofHex? (text : String) : Option Bytes := ofHexChars? text.toList

theorem ofChars_append (first second : List Char) :
    ofChars (first ++ second) = ofChars first ++ ofChars second := by
  simp [ofChars]

end Bytes

/-- Blank bytes of ASCII: space, tab, line feed, form feed and carriage return. -/
def isAsciiBlank (byte : UInt8) : Bool :=
  byte == 0x20 || byte == 0x09 || byte == 0x0A || byte == 0x0C || byte == 0x0D

end ClusterRest
