import ClusterRest.Bytes

/-! Base64 with the standard alphabet. -/

namespace ClusterRest.Base64

def digitChar (digit : Nat) : Char :=
  if digit < 26 then Char.ofNat ('A'.toNat + digit)
  else if digit < 52 then Char.ofNat ('a'.toNat + digit - 26)
  else if digit < 62 then Char.ofNat ('0'.toNat + digit - 52)
  else if digit = 62 then '+' else '/'

/-- Three bytes become four digits; a shorter rest is padded. -/
def encodeChars : Bytes → List Char
  | [] => []
  | [first] =>
    let bits := first.toNat * 16
    [digitChar (bits / 64), digitChar (bits % 64), '=', '=']
  | [first, second] =>
    let bits := (first.toNat * 256 + second.toNat) * 4
    [digitChar (bits / 4096), digitChar (bits / 64 % 64), digitChar (bits % 64), '=']
  | first :: second :: third :: rest =>
    let bits := (first.toNat * 256 + second.toNat) * 256 + third.toNat
    digitChar (bits / 262144) :: digitChar (bits / 4096 % 64) :: digitChar (bits / 64 % 64) ::
      digitChar (bits % 64) :: encodeChars rest

def encode (bytes : Bytes) : String := .ofList (encodeChars bytes)

inductive Fault where
  | character (byte : UInt8)
  | paddingInside
  | paddingAtEnd
  deriving DecidableEq, Repr

def Fault.message : Fault → String
  | .character byte => "InvalidCharacter(" ++ toString byte.toNat ++ ")"
  | .paddingInside => "PrematurePadding"
  | .paddingAtEnd => "InvalidTrailingPadding"

def padding : UInt8 := 0x3D

def isBlank (byte : UInt8) : Bool := byte == 0x20 || (0x09 ≤ byte && byte ≤ 0x0D)

def digit? (byte : UInt8) : Option Nat :=
  if 0x41 ≤ byte && byte ≤ 0x5A then some (byte.toNat - 0x41)
  else if 0x61 ≤ byte && byte ≤ 0x7A then some (byte.toNat - 0x61 + 26)
  else if 0x30 ≤ byte && byte ≤ 0x39 then some (byte.toNat - 0x30 + 52)
  else if byte == 0x2B then some 62
  else if byte == 0x2F then some 63
  else none

/-- The digits of a text and how many padding characters follow them; blanks do not count. -/
def digits : Bytes → (padded : Nat) → Except Fault (List Nat × Nat)
  | [], padded => .ok ([], padded)
  | byte :: rest, padded =>
    if isBlank byte then digits rest padded
    else if byte == padding then digits rest (padded + 1)
    else match digit? byte with
      | none => .error (.character byte)
      | some digit =>
        if padded = 0 then do
          let (others, padded) ← digits rest 0
          return (digit :: others, padded)
        else .error .paddingInside

/-- Four digits become three bytes; padding may be left out. -/
def joinDigits : List Nat → (padded : Nat) → Except Fault Bytes
  | [], 0 => .ok []
  | [first, second], padded =>
    if padded = 0 || padded = 2 then .ok [.ofNat ((first * 64 + second) / 16)]
    else .error .paddingAtEnd
  | [first, second, third], padded =>
    let bits := (first * 64 + second) * 64 + third
    if padded ≤ 1 then .ok [.ofNat (bits / 1024), .ofNat (bits / 4 % 256)]
    else .error .paddingAtEnd
  | first :: second :: third :: fourth :: rest, padded => do
    let bits := ((first * 64 + second) * 64 + third) * 64 + fourth
    return .ofNat (bits / 65536) :: .ofNat (bits / 256 % 256) :: .ofNat (bits % 256) ::
      (← joinDigits rest padded)
  | _, _ => .error .paddingAtEnd

def decode (text : Bytes) : Except Fault Bytes := do
  let (digits, padded) ← digits text 0
  joinDigits digits padded

end ClusterRest.Base64
