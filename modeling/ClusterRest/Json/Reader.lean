import ClusterRest.Json.Token

/-! Reading JSON texts: any value, values of a given shape, and values that nobody reads. -/

namespace ClusterRest.Json

def comma : UInt8 := 0x2C
def colon : UInt8 := 0x3A
def openBracket : UInt8 := 0x5B
def closeBracket : UInt8 := 0x5D
def openBrace : UInt8 := 0x7B
def closeBrace : UInt8 := 0x7D

/-- Shows the first byte of a value. -/
def peekValue : Reader UInt8 := do
  match ← peek with
  | some byte => return byte
  | none => failNext .endInValue

/-! ### Sequences and members -/

/-- Whether another element follows; passes over the comma before it. -/
def nextElement (isFirst : Bool) : Reader Bool := do
  match ← peek with
  | none => failNext .endInList
  | some byte =>
    if byte == closeBracket then return false
    else if isFirst then return true
    else if byte == comma then
      skipByte
      match ← peek with
      | none => failNext .endInValue
      | some next => if next == closeBracket then failNext .trailingComma else return true
    else failNext .expectedListCommaOrEnd

/-- Reads elements while there are any, threading a state; `fuel` bounds their number. -/
def elementsFrom {σ : Type} (element : σ → Reader σ) : (fuel : Nat) → (isFirst : Bool) → σ → Reader σ
  | 0, _, _ => failHere .endInList
  | fuel + 1, isFirst, state => do
    if ← nextElement isFirst then
      let state ← element state
      elementsFrom element fuel false state
    else return state

def closeList : Reader Unit := do
  match ← peek with
  | none => failNext .endInList
  | some byte =>
    if byte == closeBracket then skipByte
    else if byte == comma then
      skipByte
      if (← peek) == some closeBracket then failNext .trailingComma
      else failNext .trailingCharacters
    else failNext .trailingCharacters

/-- The elements of a list whose opening bracket is next. -/
def list {σ : Type} (element : σ → Reader σ) (initial : σ) : Reader σ := do
  skipByte
  let fuel := (← get).length + 1
  let state ← elementsFrom element fuel true initial
  closeList
  return state

/-- Whether another member follows; passes over the comma before it, and over the opening quote of
its name. -/
def nextMember (isFirst : Bool) : Reader Bool := do
  match ← peek with
  | none => failNext .endInObject
  | some byte =>
    if byte == closeBrace then return false
    else if isFirst then
      if byte == quoteByte then
        skipByte
        return true
      else failNext .keyMustBeString
    else if byte == comma then
      skipByte
      match ← peek with
      | none => failNext .endInValue
      | some next =>
        if next == quoteByte then
          skipByte
          return true
        else if next == closeBrace then failNext .trailingComma
        else failNext .keyMustBeString
    else failNext .expectedObjectCommaOrEnd

def passColon : Reader Unit := do
  match ← peek with
  | none => failNext .endInObject
  | some byte => if byte == colon then skipByte else failNext .expectedColon

def closeObject : Reader Unit := do
  match ← peek with
  | none => failNext .endInObject
  | some byte =>
    if byte == closeBrace then skipByte
    else if byte == comma then failNext .trailingComma
    else failNext .trailingCharacters

/-- Reads members while there are any. `member` gets the name and starts before the colon. -/
def membersFrom {σ : Type} (member : String → σ → Reader σ) :
    (fuel : Nat) → (isFirst : Bool) → σ → Reader σ
  | 0, _, _ => failHere .endInObject
  | fuel + 1, isFirst, state => do
    if ← nextMember isFirst then
      let name ← stringTail
      let state ← member name state
      membersFrom member fuel false state
    else return state

/-- The members of an object whose opening brace is next. -/
def members {σ : Type} (member : String → σ → Reader σ) (initial : σ) : Reader σ := do
  skipByte
  let fuel := (← get).length + 1
  let state ← membersFrom member fuel true initial
  closeObject
  return state

/-! ### Any value -/

/-- Brackets nest at most this deep. -/
def depthLimit : Nat := 128

/-- A value that holds no other value; `none` before a bracket or a brace. -/
def scalar? (first : UInt8) : Reader (Option Value) := do
  if first == 0x6E then
    skipByte
    literalTail [0x75, 0x6C, 0x6C]
    return some .null
  else if first == 0x74 then
    skipByte
    literalTail [0x72, 0x75, 0x65]
    return some (.bool true)
  else if first == 0x66 then
    skipByte
    literalTail [0x61, 0x6C, 0x73, 0x65]
    return some (.bool false)
  else if first == 0x2D then
    skipByte
    return some (.number (← numberTail true))
  else if isDigitByte first then return some (.number (← numberTail false))
  else if first == quoteByte then
    skipByte
    return some (.string (← stringTail))
  else if first == openBracket || first == openBrace then return none
  else failNext .expectedValue

/-- A value with brackets nested less than `depth` deep. -/
def value : (depth : Nat) → Reader Value
  | 0 => failNext .recursionLimit
  | depth + 1 => do
    let first ← peekValue
    match ← scalar? first with
    | some scalar => return scalar
    | none =>
      if depth = 0 then failNext .recursionLimit
      else if first == openBracket then
        let elements ← list (fun read => do return read ++ [← value depth]) []
        return .array elements
      else
        let sorted ← members (fun name read => do
          passColon
          return insertMember name (← value depth) read) []
        return .object sorted

/-! ### Values of a given shape -/

/-- Fails on a value of another type than expected, after reading it as far as it is a scalar. -/
def failType {α : Type} (expected : String) : Reader α := do
  let first ← peekValue
  let found ←
    match ← scalar? first with
    | some .null => pure "null"
    | some (.bool truth) =>
      pure ("boolean \x60" ++ (if truth then "true" else "false") ++ "\x60")
    | some (.number number) => pure (describeNumber number)
    | some (.string text) => pure ("string " ++ Text.quote text)
    | _ => pure (if first == openBracket then "sequence" else "map")
  failHere (.invalidType found expected)

def text : Reader String := do
  if (← peekValue) == quoteByte then
    skipByte
    stringTail
  else failType "a string"

/-- Reads `null` as nothing. -/
def optional {α : Type} (reader : Reader α) : Reader (Option α) := do
  if (← peek) == some 0x6E then
    skipByte
    literalTail [0x75, 0x6C, 0x6C]
    return none
  else return some (← reader)

/-- Fails where an object or list turns out wrong as a whole, which is noticed after its end. -/
def failWhole {α : Type} (close : UInt8) (cause : Cause) : Reader α := do
  if (← peek) == some close then skipByte
  failHere cause

/-- Whether a list goes on; if so, the next element is read. -/
def element? {α : Type} (reader : Reader α) (isFirst : Bool) : Reader (Option α) := do
  if ← nextElement isFirst then return some (← reader) else return none

/-! ### Values that nobody reads -/

/-- After an element or member: the comma before the next one, or the end. -/
def skipToNext (close : UInt8) (missing atEnd : Cause) : Reader Bool := do
  match ← peek with
  | none => failNext atEnd
  | some byte =>
    if byte == comma then
      skipByte
      return true
    else if byte == close then
      skipByte
      return false
    else failNext missing

def skipName : Reader Unit := do
  match ← peek with
  | none => failNext .endInObject
  | some byte =>
    if byte == quoteByte then
      skipByte
      skipStringTail
      passColon
    else failNext .keyMustBeString

/-- Skips elements with their commas, from the start of one of them. -/
def skipElements (skip : Reader Unit) : (fuel : Nat) → Reader Unit
  | 0 => failHere .endInList
  | fuel + 1 => do
    skip
    if ← skipToNext closeBracket .expectedListCommaOrEnd .endInList then skipElements skip fuel
    else return ()

def skipMembers (skip : Reader Unit) : (fuel : Nat) → Reader Unit
  | 0 => failHere .endInObject
  | fuel + 1 => do
    skipName
    skip
    if ← skipToNext closeBrace .expectedObjectCommaOrEnd .endInObject then skipMembers skip fuel
    else return ()

/-- Skips a value of any depth; `fuel` bounds the depth. -/
def skipValueWithin : (fuel : Nat) → Reader Unit
  | 0 => failNext .expectedValue
  | fuel + 1 => do
    let first ← peekValue
    if first == openBracket then
      skipByte
      match ← peek with
      | none => failNext .endInList
      | some byte =>
        if byte == closeBracket then skipByte
        else skipElements (skipValueWithin fuel) ((← get).length + 1)
    else if first == openBrace then
      skipByte
      match ← peek with
      | none => failNext .endInObject
      | some byte =>
        if byte == closeBrace then skipByte
        else skipMembers (skipValueWithin fuel) ((← get).length + 1)
    else if first == quoteByte then
      skipByte
      skipStringTail
    else if first == 0x2D then
      skipByte
      skipNumberTail
    else if isDigitByte first then skipNumberTail
    else if first == 0x6E || first == 0x74 || first == 0x66 then
      let _ ← scalar? first
      return ()
    else failNext .expectedValue

def skipValue : Reader Unit := do skipValueWithin ((← get).length + 1)

/-! ### Whole texts -/

/-- Runs a reader on a whole text: only blanks may follow. -/
def readWhole {α : Type} (reader : Reader α) (text : Bytes) : Except LocatedFault α :=
  let whole : Reader α := do
    let read ← reader
    match ← peek with
    | none => return read
    | some _ => failNext .trailingCharacters
  match whole text with
  | .ok (read, _) => .ok read
  | .error fault => .error (fault.locate text)

/-- Reads a JSON text. -/
def parse (text : Bytes) : Except LocatedFault Value := readWhole (value depthLimit) text

end ClusterRest.Json
