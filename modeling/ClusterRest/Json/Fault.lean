import ClusterRest.Bytes
import ClusterRest.Text.Quoted
import ClusterRest.Json.Printer

/-! Why a text is not the JSON that is asked for, and where. -/

namespace ClusterRest.Json

inductive Cause where
  | endInList
  | endInObject
  | endInString
  | endInValue
  | expectedColon
  | expectedListCommaOrEnd
  | expectedObjectCommaOrEnd
  | expectedIdent
  | expectedValue
  | invalidEscape
  | invalidNumber
  | numberOutOfRange
  | invalidUnicode
  | controlCharacter
  | keyMustBeString
  | loneSurrogate
  | trailingComma
  | trailingCharacters
  | endOfHexEscape
  | recursionLimit
  | invalidType (found expected : String)
  | invalidLength (length : Nat) (expected : String)
  | duplicateField (name : String)
  deriving DecidableEq, Repr

def Cause.text : Cause → String
  | .endInList => "EOF while parsing a list"
  | .endInObject => "EOF while parsing an object"
  | .endInString => "EOF while parsing a string"
  | .endInValue => "EOF while parsing a value"
  | .expectedColon => "expected \x60:\x60"
  | .expectedListCommaOrEnd => "expected \x60,\x60 or \x60]\x60"
  | .expectedObjectCommaOrEnd => "expected \x60,\x60 or \x60\x7d\x60"
  | .expectedIdent => "expected ident"
  | .expectedValue => "expected value"
  | .invalidEscape => "invalid escape"
  | .invalidNumber => "invalid number"
  | .numberOutOfRange => "number out of range"
  | .invalidUnicode => "invalid unicode code point"
  | .controlCharacter => "control character (\\u0000-\\u001F) found while parsing a string"
  | .keyMustBeString => "key must be a string"
  | .loneSurrogate => "lone leading surrogate in hex escape"
  | .trailingComma => "trailing comma"
  | .trailingCharacters => "trailing characters"
  | .endOfHexEscape => "unexpected end of hex escape"
  | .recursionLimit => "recursion limit exceeded"
  | .invalidType found expected => "invalid type: " ++ found ++ ", expected " ++ expected
  | .invalidLength length expected =>
    "invalid length " ++ toString length ++ ", expected " ++ expected
  | .duplicateField name => "duplicate field \x60" ++ name ++ "\x60"

/-- A cause, and how many bytes of the text lie after its place. -/
structure Fault where
  cause : Cause
  remaining : Nat
  deriving DecidableEq, Repr

/-- A cause at a line, counted from one, and a column of bytes. -/
structure LocatedFault where
  cause : Cause
  line : Nat
  column : Nat
  deriving DecidableEq, Repr

def lineFeed : UInt8 := 0x0A

def Fault.locate (text : Bytes) (fault : Fault) : LocatedFault :=
  let before := text.take (text.length - fault.remaining)
  ⟨fault.cause, 1 + before.count lineFeed, (before.reverse.takeWhile (· != lineFeed)).length⟩

def LocatedFault.message (fault : LocatedFault) : String :=
  fault.cause.text ++ " at line " ++ toString fault.line ++ " column " ++ toString fault.column

/-- How a message names a value of the wrong type. -/
def describeNumber : Number → String
  | .floating value => "floating point \x60" ++ value.toJsonText ++ "\x60"
  | number => "integer \x60" ++ numberText number ++ "\x60"

end ClusterRest.Json
