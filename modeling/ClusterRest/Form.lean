import ClusterRest.Bytes
import ClusterRest.Text.Pieces

/-! Pairs in form encoding, as queries carry them. -/

namespace ClusterRest.Form

open Text

/-- Bytes that stand for themselves: ASCII letters and digits, and `*`, `-`, `.`, `_`. -/
def isPlain (byte : UInt8) : Bool :=
  (0x30 ≤ byte && byte ≤ 0x39) || (0x41 ≤ byte && byte ≤ 0x5A) || (0x61 ≤ byte && byte ≤ 0x7A) ||
    byte == 0x2A || byte == 0x2D || byte == 0x2E || byte == 0x5F

def encodeByte (byte : UInt8) : List Char :=
  if isPlain byte then [Char.ofNat byte.toNat]
  else if byte == 0x20 then ['+']
  else ['%', Bytes.upperHexDigit (byte / 16), Bytes.upperHexDigit (byte % 16)]

def encodeBytes (bytes : Bytes) : List Char := bytes.flatMap encodeByte

def encodePair (pair : Bytes × Bytes) : List Char :=
  encodeBytes pair.1 ++ '=' :: encodeBytes pair.2

def encode : List (Bytes × Bytes) → List Char
  | [] => []
  | [pair] => encodePair pair
  | pair :: rest => encodePair pair ++ '&' :: encode rest

/-- Bytes from their encoded form; what is not an escape stands for itself. -/
def decodeBytes : List Char → Bytes
  | '%' :: high :: low :: rest =>
    match Bytes.ofHexDigit? high, Bytes.ofHexDigit? low with
    | some first, some second => (16 * first + second) :: decodeBytes rest
    | _, _ => Bytes.ofChars ['%'] ++ decodeBytes (high :: low :: rest)
  | '+' :: rest => 0x20 :: decodeBytes rest
  | character :: rest => Bytes.ofChars [character] ++ decodeBytes rest
  | [] => []

def decodePair (piece : List Char) : Bytes × Bytes :=
  match cutChars '=' piece with
  | some (name, value) => (decodeBytes name, decodeBytes value)
  | none => (decodeBytes piece, [])

/-- The pairs of an encoded text; empty pieces between ampersands are passed over. -/
def decode (text : List Char) : List (Bytes × Bytes) :=
  ((piecesOf '&' text).filter (!·.isEmpty)).map decodePair

end ClusterRest.Form
