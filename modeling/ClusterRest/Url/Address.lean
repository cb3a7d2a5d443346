import ClusterRest.Text.Ascii
import ClusterRest.Text.Pieces
import ClusterRest.Bytes

/-! Numeric hosts: IPv4 addresses in their many spellings, and IPv6 addresses. -/

namespace ClusterRest.Url

open Text

def digitsToNat (base : Nat) (digits : List Char) : Nat :=
  digits.foldl (fun number digit => base * number + ((Bytes.ofHexDigit? digit).getD 0).toNat) 0

/-- A number in decimal, in octal after `0`, or in hexadecimal after `0x`; `0x` alone is zero. -/
def ipv4Number? (part : List Char) : Option Nat :=
  let hexadecimal (digits : List Char) :=
    if digits.all isHexDigit then some (digitsToNat 16 digits) else none
  match part with
  | [] => none
  | '0' :: 'x' :: digits => hexadecimal digits
  | '0' :: 'X' :: digits => hexadecimal digits
  | '0' :: digit :: digits =>
    if (digit :: digits).all fun digit => '0' ≤ digit && digit ≤ '7' then
      some (digitsToNat 8 (digit :: digits))
    else none
  | _ => if part.all isDigit then some (digitsToNat 10 part) else none

def dropFinalEmpty (parts : List (List Char)) : List (List Char) :=
  if parts.length > 1 && parts.getLast? == some [] then parts.dropLast else parts

/-- Whether a domain name is to be read as an IPv4 address: its last part is a number. -/
def endsInNumber (domain : List Char) : Bool :=
  match (dropFinalEmpty (piecesOf '.' domain)).getLast? with
  | none | some [] => false
  | some part => part.all isDigit || (ipv4Number? part).isSome

def joinIpv4 : List Nat → Option Nat
  | [] => none
  | numbers@(_ :: _) =>
    let leading := numbers.dropLast
    let final := numbers.getLast?.getD 0
    if final ≥ Nat.pow 256 (4 - leading.length) || leading.any (· > 255) then none
    else some (final + leading.zipIdx.foldl (fun sum (part, index) => sum + part * Nat.pow 256 (3 - index)) 0)

/-- At most four numbers, of which the last fills the bytes that the others leave. -/
def ipv4? (domain : List Char) : Option Nat :=
  let parts := dropFinalEmpty (piecesOf '.' domain)
  if parts.length > 4 then none else (parts.mapM ipv4Number?).bind joinIpv4

def ipv4Text (address : Nat) : String :=
  ".".intercalate ([24, 16, 8, 0].map fun shift => toString (address / Nat.pow 2 shift % 256))

/-- The four decimal bytes that may end an IPv6 address, as two pieces. -/
def embeddedIpv4? (text : List Char) : Option (List Nat) := do
  let parts ← (piecesOf '.' text).mapM fun part =>
    if part.isEmpty || !part.all isDigit || (part.head? == some '0' && part.length > 1) then none
    else some (decimalOfDigits part)
  match parts with
  | [first, second, third, fourth] =>
    if parts.any (· > 255) then none else some [first * 256 + second, third * 256 + fourth]
  | _ => none

def ipv6Piece? (text : List Char) : Option Nat :=
  if text.isEmpty || text.length > 4 || !text.all isHexDigit then none
  else some (digitsToNat 16 text)

/-- Pieces parted by colons; only the last may be an IPv4 address. -/
def ipv6Pieces? : List (List Char) → Option (List Nat)
  | [] => some []
  | [final] => if final.contains '.' then embeddedIpv4? final else (ipv6Piece? final).map ([·])
  | piece :: pieces => do return (← ipv6Piece? piece) :: (← ipv6Pieces? pieces)

def ipv6Side? (text : List Char) : Option (List Nat) :=
  if text.isEmpty then some [] else ipv6Pieces? (piecesOf ':' text)

/-- The parts before and after the first double colon. -/
def cutDoubleColon : List Char → Option (List Char × List Char)
  | ':' :: ':' :: rest => some ([], rest)
  | character :: rest =>
    (cutDoubleColon rest).map fun (before, after) => (character :: before, after)
  | [] => none

/-- Eight pieces, or fewer around a double colon that stands for at least one zero. -/
def ipv6? (text : List Char) : Option (List Nat) :=
  match cutDoubleColon text with
  | none => do
    let pieces ← ipv6Pieces? (piecesOf ':' text)
    if pieces.length = 8 then some pieces else none
  | some (before, after) => do
    if before.contains '.' then none
    let left ← ipv6Side? before
    let right ← ipv6Side? after
    if left.length + right.length > 7 then none
    return left ++ List.replicate (8 - left.length - right.length) 0 ++ right

/-- The start and length of the first longest run of zero pieces. -/
def zeroRun (pieces : List Nat) : Nat × Nat :=
  (List.range pieces.length).foldl
    (fun best start =>
      let length := ((pieces.drop start).takeWhile (· == 0)).length
      if length > best.2 then (start, length) else best)
    (0, 0)

def hexPieces (pieces : List Nat) : String :=
  ":".intercalate (pieces.map fun piece => String.ofList (Nat.toDigits 16 piece))

def ipv6Text (pieces : List Nat) : String :=
  let (start, length) := zeroRun pieces
  if length < 2 then hexPieces pieces
  else hexPieces (pieces.take start) ++ "::" ++ hexPieces (pieces.drop (start + length))

end ClusterRest.Url
