import ClusterRest.Text.Reader
import ClusterRest.Toml.Draft
import ClusterRest.Toml.Number
import ClusterRest.Toml.Text

/-! Reading TOML documents. -/

namespace ClusterRest.Toml

open Text Reader

def skipBlanks : Reader Unit := discard (takeAll isBlank)

/-- Takes a line end, if there is one. -/
def takeLineEnd : Reader Bool := do
  match ← get with
  | '\n' :: rest =>
    set rest
    return true
  | '\r' :: '\n' :: rest =>
    set rest
    return true
  | _ => return false

def skipComment : Reader Unit := do
  if (← peek) = some '#' then discard (takeAll isPlain)

/-- What may follow on a line: blanks and a comment. -/
def endLine : Reader Unit := do
  skipBlanks
  skipComment
  if !(← takeLineEnd) && !(← get).isEmpty then failure

/-- Blanks, comments and line ends. -/
def skipLines : (fuel : Nat) → Reader Unit
  | 0 => pure ()
  | fuel + 1 => do
    skipBlanks
    match ← peek with
    | some '#' =>
      skipComment
      if !(← takeLineEnd) then failure
      skipLines fuel
    | _ => if ← takeLineEnd then skipLines fuel

def skipSpace : Reader Unit := do skipLines ((← get).length + 1)

/-- One step of a name: quoted, or of letters, digits, underscores and dashes. -/
def step : Reader String := do
  match ← peek with
  | some '"' | some '\'' =>
    match shortString? (← get) with
    | some (content, rest) =>
      set rest
      return .ofList content
    | none => failure
  | _ =>
    let name ← takeAll isBareChar
    if name.isEmpty then failure
    return .ofList name

/-- Names have fewer steps than this, and values are nested less deep. -/
def depthLimit : Nat := 80

/-- The steps of a dotted name. -/
def stepsWithin : (count : Nat) → Reader (List String)
  | 0 => failure
  | count + 1 => do
    skipBlanks
    let first ← step
    skipBlanks
    if ← take '.' then return first :: (← stepsWithin count) else return [first]

def steps : Reader (List String) := stepsWithin (depthLimit - 1)

/-- A dotted name: its first steps and its last one. -/
def name : Reader (List String × String) := do
  let steps ← steps
  match steps.getLast? with
  | some last => return (steps.dropLast, last)
  | none => failure

/-- Characters that end a word. -/
def endsWord (character : Char) : Bool :=
  " \t\r\n,]\x7d#".toList.contains character

/-- A value without quotes and brackets. A time may follow a date after a space. -/
def word : Reader Value := do
  let first ← takeAll (!endsWord ·)
  let all ← match date? first, ← get with
    | some (_, []), ' ' :: digit :: rest =>
      if Text.isDigit digit then
        set (digit :: rest)
        pure (first ++ ' ' :: (← takeAll (!endsWord ·)))
      else pure first
    | _, _ => pure first
  match word? all with
  | some value => return value
  | none => failure

/-- The elements of a list after its bracket. -/
def elements (element : Reader Value) : (fuel : Nat) → Reader (List Value)
  | 0 => failure
  | fuel + 1 => do
    skipSpace
    if ← take ']' then return []
    let first ← element
    skipSpace
    if ← take ',' then return first :: (← elements element fuel)
    expect ']'
    return [first]

/-- The members of a table on one line, after its brace. -/
def pairs (element : Reader Value) : (fuel : Nat) → Nodes → Reader Nodes
  | 0, _ => failure
  | fuel + 1, nodes => do
    let (path, last) ← name
    expect '='
    skipBlanks
    let value ← element
    skipBlanks
    match nodes.addDotted last (.value value) path with
    | none => failure
    | some nodes =>
      if ← take ',' then pairs element fuel nodes
      else
        expect '\x7d'
        return nodes

def inlineTable (element : Reader Value) : Reader Value := do
  skipBlanks
  if ← take '\x7d' then return .table []
  return .table (membersOf (← pairs element ((← get).length + 1) []))

/-- A value of limited depth. -/
def value : (depth : Nat) → Reader Value
  | 0 => failure
  | depth + 1 => do
    match ← get with
    | '"' :: _ | '\'' :: _ =>
      match string? (← get) with
      | some (content, rest) =>
        set rest
        return .text (.ofList content)
      | none => failure
    | '[' :: rest =>
      set rest
      if depth = 0 then failure
      return .list (← elements (value depth) (rest.length + 1))
    | '\x7b' :: rest =>
      set rest
      if depth = 0 then failure
      inlineTable (value depth)
    | _ => word

def header (draft : Draft) : Reader Draft := do
  let isElement ← take '['
  let path ← steps
  expect ']'
  if isElement then expect ']'
  endLine
  let next := if isElement then draft.openElement path else draft.openTable path
  match next with
  | some draft => return draft
  | none => failure

def pair (draft : Draft) : Reader Draft := do
  let (path, last) ← name
  expect '='
  skipBlanks
  let value ← value depthLimit
  endLine
  match draft.add path last value with
  | some draft => return draft
  | none => failure

/-- The lines of a document. -/
def lines : (fuel : Nat) → Draft → Reader Draft
  | 0, _ => failure
  | fuel + 1, draft => do
    skipBlanks
    match ← peek with
    | none => return draft
    | some '#' | some '\n' | some '\r' =>
      endLine
      lines fuel draft
    | some '[' =>
      expect '['
      lines fuel (← header draft)
    | some _ => lines fuel (← pair draft)

/-- A mark that may come before a document. -/
def dropByteOrderMark : List Char → List Char
  | '\ufeff' :: rest => rest
  | text => text

/-- The members of a document, if it is one. -/
def parse? (text : String) : Option Members := do
  let text := dropByteOrderMark text.toList
  let (draft, _) ← (lines (text.length + 1) .empty).run text
  return membersOf (← draft.finish)

end ClusterRest.Toml
