import ClusterRest.Json.Reader
import ClusterRest.Proofs.Utf8
import ClusterRest.Text.Ascii

/-!
The grammar of JSON texts, after RFC 8259, as concrete trees: every blank, numeral and escape stands
as it is written. Any tree is a text, and `Tree.value?` is the value that it stands for, where the
reader has one for it.
-/

namespace ClusterRest.Json

open Decimal

inductive Blank where
  | space
  | tab
  | lineFeed
  | carriageReturn
  deriving DecidableEq, Repr

def Blank.char : Blank → Char
  | .space => ' '
  | .tab => '\t'
  | .lineFeed => '\n'
  | .carriageReturn => '\r'

abbrev Blanks := List Blank

def blankChars (blanks : Blanks) : List Char := blanks.map Blank.char

/-! ### Strings -/

/-- The escapes of one letter. -/
inductive Escape where
  | quote
  | backslash
  | slash
  | backspace
  | formFeed
  | lineFeed
  | carriageReturn
  | tab
  deriving DecidableEq, Repr

namespace Escape

def letter : Escape → Char
  | .quote => '"'
  | .backslash => '\\'
  | .slash => '/'
  | .backspace => 'b'
  | .formFeed => 'f'
  | .lineFeed => 'n'
  | .carriageReturn => 'r'
  | .tab => 't'

/-- The character that an escape stands for. -/
def character : Escape → Char
  | .quote => '"'
  | .backslash => '\\'
  | .slash => '/'
  | .backspace => '\x08'
  | .formFeed => '\x0c'
  | .lineFeed => '\n'
  | .carriageReturn => '\r'
  | .tab => '\t'

end Escape

abbrev HexDigit := { character : Char // Text.isHexDigit character = true }

/-- The four digits of an escape by number. -/
structure HexCode where
  first : HexDigit
  second : HexDigit
  third : HexDigit
  fourth : HexDigit
  deriving DecidableEq, Repr

namespace HexCode

def chars (code : HexCode) : List Char := [code.first, code.second, code.third, code.fourth]

def value (code : HexCode) : Nat :=
  code.chars.foldl (fun number digit => 16 * number + ((Bytes.ofHexDigit? digit).getD 0).toNat) 0

def isLeading (code : HexCode) : Bool := isLeadingSurrogate code.value
def isTrailing (code : HexCode) : Bool := isTrailingSurrogate code.value

end HexCode

/-- A character that stands for itself in a string. -/
def isUnescaped (character : Char) : Bool :=
  ' ' ≤ character && character != '"' && character != '\\'

/-- What a string is written in: characters and escapes. -/
inductive Piece where
  | plain (character : Char) (unescaped : isUnescaped character = true)
  | escaped (escape : Escape)
  | coded (code : HexCode)
  deriving DecidableEq, Repr

def Piece.chars : Piece → List Char
  | .plain character _ => [character]
  | .escaped escape => ['\\', escape.letter]
  | .coded code => '\\' :: 'u' :: code.chars

def contentChars (pieces : List Piece) : List Char := pieces.flatMap Piece.chars

/-- A string in its quotes. -/
def literalChars (pieces : List Piece) : List Char := '"' :: (contentChars pieces ++ ['"'])

/-- The characters that pieces stand for. A surrogate needs its partner beside it. -/
def decode? : List Piece → Option (List Char)
  | [] => some []
  | .plain character _ :: rest => (decode? rest).map (character :: ·)
  | .escaped escape :: rest => (decode? rest).map (escape.character :: ·)
  | .coded code :: rest =>
    if code.isTrailing then none
    else if code.isLeading then
      match rest with
      | .coded trailing :: rest =>
        if trailing.isTrailing then
          (decode? rest).map (surrogatePair code.value trailing.value :: ·)
        else none
      | _ => none
    else (decode? rest).map (Char.ofNat code.value :: ·)

/-- The text of a string, if its surrogates are paired. -/
def string? (pieces : List Piece) : Option String := (decode? pieces).map String.ofList

/-! ### Numbers -/

abbrev Digit := Fin 10

instance Digit.neZero : @NeZero Nat Zero.ofOfNat0 10 := ⟨by decide⟩

def Digit.char (digit : Digit) : Char := Nat.digitChar digit

def Digit.byte (digit : Digit) : UInt8 := .ofNat (0x30 + digit)

def digitChars (digits : List Digit) : List Char := digits.map Digit.char

def digitBytes (digits : List Digit) : Bytes := digits.map Digit.byte

/-- One digit or more. -/
structure Digits where
  first : Digit
  rest : List Digit
  deriving DecidableEq, Repr

def Digits.all (digits : Digits) : List Digit := digits.first :: digits.rest

/-- The whole part of a numeral: no zero stands before another digit. -/
inductive Whole where
  | zero
  | positive (first : Digit) (nonzero : first ≠ 0) (rest : List Digit)
  deriving DecidableEq, Repr

def Whole.digits : Whole → List Digit
  | .zero => [0]
  | .positive first _ rest => first :: rest

inductive Sign where
  | none
  | plus
  | minus
  deriving DecidableEq, Repr

def Sign.chars : Sign → List Char
  | .none => []
  | .plus => ['+']
  | .minus => ['-']

structure Exponent where
  isUpper : Bool
  sign : Sign
  digits : Digits
  deriving DecidableEq, Repr

def Exponent.chars (exponent : Exponent) : List Char :=
  (if exponent.isUpper then 'E' else 'e') ::
    (exponent.sign.chars ++ digitChars exponent.digits.all)

structure Numeral where
  isNegative : Bool
  whole : Whole
  fraction : Option Digits
  exponent : Option Exponent
  deriving DecidableEq, Repr

namespace Numeral

def fractionChars (fraction : Option Digits) : List Char :=
  match fraction with
  | none => []
  | some digits => '.' :: digitChars digits.all

def exponentChars (exponent : Option Exponent) : List Char :=
  match exponent with
  | none => []
  | some exponent => exponent.chars

/-- A numeral after its sign. -/
def tailChars (numeral : Numeral) : List Char :=
  digitChars numeral.whole.digits ++
    (fractionChars numeral.fraction ++ exponentChars numeral.exponent)

def chars (numeral : Numeral) : List Char :=
  (if numeral.isNegative then ['-'] else []) ++ numeral.tailChars

end Numeral

def floating? (isNegative : Bool) (significand : Nat) (scale : Int) : Option Number :=
  (scale? significand scale).map (signed isNegative)

/-- The number `significand · 10 ^ scale` times the power of ten that an exponent adds. -/
def Exponent.value? (exponent : Exponent) (isNegative : Bool) (significand : Nat) (scale : Int) :
    Option Number :=
  let isBelow := exponent.sign == .minus
  let digits := digitBytes exponent.digits.all
  let (power, taken) := fittingExponent 0 digits
  if taken = digits.length then
    floating? isNegative significand (if isBelow then scale - power else scale + power)
  else if significand != 0 && !isBelow then none
  else some (signed isNegative (Binary64.zero false))

/-- The same for an exponent that may be missing; `plain` is the number without one. -/
def scaled? (exponent : Option Exponent) (isNegative : Bool) (significand : Nat) (scale : Int)
    (plain : Option Number) : Option Number :=
  match exponent with
  | none => plain
  | some exponent => exponent.value? isNegative significand scale

/-- The number that a numeral stands for; none where that is out of range. -/
def Numeral.value? (numeral : Numeral) : Option Number :=
  let isNegative := numeral.isNegative
  let whole := digitBytes numeral.whole.digits
  let (significand, taken) := appendDigits 0 whole
  let dropped : Int := whole.length - taken
  match numeral.fraction with
  | none =>
    scaled? numeral.exponent isNegative significand dropped
      (if dropped = 0 then some (integer isNegative significand)
      else floating? isNegative significand dropped)
  | some digits =>
    let (significand, taken) := appendDigits significand (digitBytes digits.all)
    scaled? numeral.exponent isNegative significand (dropped - taken)
      (floating? isNegative significand (dropped - taken))

/-! ### Values -/

inductive Scalar where
  | null
  | bool (truth : Bool)
  | number (numeral : Numeral)
  | string (pieces : List Piece)
  deriving DecidableEq, Repr

def Scalar.chars : Scalar → List Char
  | .null => "null".toList
  | .bool truth => (if truth then "true" else "false").toList
  | .number numeral => numeral.chars
  | .string pieces => literalChars pieces

def Scalar.value? : Scalar → Option Value
  | .null => some .null
  | .bool truth => some (.bool truth)
  | .number numeral => numeral.value?.map .number
  | .string pieces => (string? pieces).map .string

/-- The name of a member, with the blanks around it. -/
structure Name where
  before : Blanks
  pieces : List Piece
  after : Blanks
  deriving DecidableEq, Repr

def Name.chars (name : Name) : List Char :=
  blankChars name.before ++ literalChars name.pieces ++ blankChars name.after

/-- A value with the blanks around it; `inner` stands after the opening bracket or brace. -/
inductive Tree where
  | scalar (before : Blanks) (scalar : Scalar) (after : Blanks)
  | array (before inner : Blanks) (elements : List Tree) (after : Blanks)
  | object (before inner : Blanks) (members : List (Name × Tree)) (after : Blanks)

mutual

def Tree.chars : Tree → List Char
  | .scalar before scalar after => blankChars before ++ scalar.chars ++ blankChars after
  | .array before inner elements after =>
    blankChars before ++ '[' :: (blankChars inner ++ elementChars true elements ++
      ']' :: blankChars after)
  | .object before inner members after =>
    blankChars before ++ '{' :: (blankChars inner ++ memberChars true members ++
      '}' :: blankChars after)

def elementChars : (isFirst : Bool) → List Tree → List Char
  | _, [] => []
  | isFirst, element :: rest =>
    (if isFirst then [] else [',']) ++ element.chars ++ elementChars false rest

def memberChars : (isFirst : Bool) → List (Name × Tree) → List Char
  | _, [] => []
  | isFirst, (name, tree) :: rest =>
    (if isFirst then [] else [',']) ++ name.chars ++ ':' :: tree.chars ++ memberChars false rest

end

/-- What stands after the value itself. -/
def Tree.after : Tree → Blanks
  | .scalar _ _ after | .array _ _ _ after | .object _ _ _ after => after

mutual

/-- How deep brackets nest. -/
def Tree.depth : Tree → Nat
  | .scalar _ _ _ => 0
  | .array _ _ elements _ => elementDepth elements + 1
  | .object _ _ members _ => memberDepth members + 1

def elementDepth : List Tree → Nat
  | [] => 0
  | element :: rest => max element.depth (elementDepth rest)

def memberDepth : List (Name × Tree) → Nat
  | [] => 0
  | (_, tree) :: rest => max tree.depth (memberDepth rest)

end

mutual

/-- The value that a tree stands for: none where a number is out of range or a surrogate alone. -/
def Tree.value? : Tree → Option Value
  | .scalar _ scalar _ => scalar.value?
  | .array _ _ elements _ => (elementValues? elements).map .array
  | .object _ _ members _ => (memberValues? members).map ofMembers

def elementValues? : List Tree → Option (List Value)
  | [] => some []
  | element :: rest => do return (← element.value?) :: (← elementValues? rest)

def memberValues? : List (Name × Tree) → Option Members
  | [] => some []
  | (name, tree) :: rest => do
    return (← string? name.pieces, ← tree.value?) :: (← memberValues? rest)

end

namespace Tree

def text (tree : Tree) : String := .ofList tree.chars

def bytes (tree : Tree) : Bytes := .ofChars tree.chars

end Tree

end ClusterRest.Json
