import ClusterRest.Bytes

/-! Percent encoding, and the sets of bytes that each part of a URL encodes. -/

namespace ClusterRest.Url

/-- Which ASCII bytes a part of a URL encodes; bytes beyond ASCII are always encoded. -/
abbrev EncodeSet := UInt8 → Bool

def isOneOf (characters : String) (byte : UInt8) : Bool :=
  characters.toList.any fun character => character.toNat == byte.toNat

def controlSet : EncodeSet := fun byte => byte < 0x20 || byte ≥ 0x7F
def fragmentSet : EncodeSet := fun byte => controlSet byte || isOneOf " \"<>\x60" byte
def querySet : EncodeSet := fun byte => controlSet byte || isOneOf " \"#<>" byte
def specialQuerySet : EncodeSet := fun byte => querySet byte || isOneOf "'" byte
def pathSet : EncodeSet := fun byte => fragmentSet byte || isOneOf "#?\x7b\x7d" byte
def userinfoSet : EncodeSet := fun byte => pathSet byte || isOneOf "/:;=@[\\]^|" byte

def encodedByte (byte : UInt8) : List Char :=
  ['%', Bytes.upperHexDigit (byte / 16), Bytes.upperHexDigit (byte % 16)]

def encodeByte (set : EncodeSet) (byte : UInt8) : List Char :=
  if set byte then encodedByte byte else [Char.ofNat byte.toNat]

def percentEncode (set : EncodeSet) (characters : List Char) : List Char :=
  (Bytes.ofChars characters).flatMap (encodeByte set)

/-- Replaces each percent sign with two hexadecimal digits by the byte that they write. -/
def percentDecode : Bytes → Bytes
  | 0x25 :: high :: low :: rest =>
    match Bytes.ofHexDigit? (Char.ofNat high.toNat), Bytes.ofHexDigit? (Char.ofNat low.toNat) with
    | some first, some second => (16 * first + second) :: percentDecode rest
    | _, _ => 0x25 :: percentDecode (high :: low :: rest)
  | byte :: rest => byte :: percentDecode rest
  | [] => []

end ClusterRest.Url
