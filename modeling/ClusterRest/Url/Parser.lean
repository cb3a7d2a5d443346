import ClusterRest.Url.Basic

/-! Reading absolute URLs. Main function: `Url.parse`. -/

namespace ClusterRest.Url

open Text

/-- How the scheme of a URL shapes the rest of it. -/
inductive SchemeKind where
  | file
  | special
  | other
  deriving DecidableEq, Repr

namespace SchemeKind

def ofScheme (scheme : String) : SchemeKind :=
  if scheme = "file" then .file
  else if ["http", "https", "ws", "wss", "ftp"].contains scheme then .special
  else .other

/-- A backslash parts path segments unless the scheme is unknown. -/
def isSlash (kind : SchemeKind) (character : Char) : Bool :=
  character = '/' || (character = '\\' && kind != .other)

def endsAuthority (kind : SchemeKind) (character : Char) : Bool :=
  kind.isSlash character || character = '?' || character = '#'

end SchemeKind

def defaultPort? (scheme : String) : Option Nat :=
  if scheme = "http" || scheme = "ws" then some 80
  else if scheme = "https" || scheme = "wss" then some 443
  else if scheme = "ftp" then some 21
  else none

def isControlOrSpace (character : Char) : Bool := character ≤ ' '

def isTabOrNewline (character : Char) : Bool :=
  character = '\t' || character = '\n' || character = '\r'

/-- The input without controls and spaces at its ends and without tabs and newlines. -/
def clean (text : List Char) : List Char :=
  let started := text.dropWhile isControlOrSpace
  let trimmed := (started.reverse.dropWhile isControlOrSpace).reverse
  trimmed.filter (!isTabOrNewline ·)

def isSchemeChar (character : Char) : Bool :=
  isAsciiAlphanumeric character || character = '+' || character = '-' || character = '.'

/-- The scheme in lower case, and what follows its colon. -/
def readScheme (input : List Char) : Option (String × List Char) :=
  let name := input.takeWhile isSchemeChar
  match input.dropWhile isSchemeChar with
  | ':' :: rest =>
    if name.head?.any isAsciiLetter then some (String.ofList (name.map lowerAscii), rest) else none
  | _ => none

/-! ### Paths -/

def isDoubleDot (segment : List Char) : Bool :=
  let text := String.ofList (segment.map lowerAscii)
  text = ".." || text = "%2e." || text = ".%2e" || text = "%2e%2e"

def isSingleDot (segment : List Char) : Bool :=
  let text := String.ofList (segment.map lowerAscii)
  text = "." || text = "%2e"

def isDriveLetter (segment : List Char) : Bool :=
  match segment with
  | [letter, mark] => isAsciiLetter letter && (mark = ':' || mark = '|')
  | _ => false

def isNormalDriveLetter (segment : List Char) : Bool :=
  isDriveLetter segment && segment.getLast? == some ':'

/-- The path without its last segment; a drive letter at the root stays. -/
def shorten (kind : SchemeKind) (names : List (List Char)) : List (List Char) :=
  match names with
  | [drive] => if kind = .file && isNormalDriveLetter drive then [drive] else []
  | _ => names.dropLast

/-- Adds one segment of input to a path. A dot segment leaves a trailing slash at the path's end. -/
def addSegment (kind : SchemeKind) (names : List (List Char)) (segment : List Char)
    (isLast : Bool) : List (List Char) :=
  if isDoubleDot segment then shorten kind names ++ if isLast then [[]] else []
  else if isSingleDot segment then names ++ if isLast then [[]] else []
  else if kind = .file && names.isEmpty && isDriveLetter segment then
    names ++ [segment.take 1 ++ [':']]
  else names ++ [percentEncode pathSet segment]

/-- Reads segments up to a query or fragment; `segment` is what is read of the current one. -/
def readSegments (kind : SchemeKind) :
    List Char → (names : List (List Char)) → (segment : List Char) → List (List Char) × List Char
  | [], names, segment => (addSegment kind names segment true, [])
  | character :: rest, names, segment =>
    if character = '?' || character = '#' then
      (addSegment kind names segment true, character :: rest)
    else if kind.isSlash character then
      readSegments kind rest (addSegment kind names segment false) []
    else readSegments kind rest names (segment ++ [character])

/-- The path after an authority. A scheme with known rules always has one. -/
def readPathStart (kind : SchemeKind) (input : List Char) : List (List Char) × List Char :=
  match input with
  | [] => if kind = .other then ([], []) else readSegments kind [] [] []
  | character :: rest =>
    if kind.isSlash character then readSegments kind rest [] []
    else if kind = .other && (character = '?' || character = '#') then ([], input)
    else readSegments kind input [] []

def pathOfNames (names : List (List Char)) : Path := .segments (names.map String.ofList)

/-! ### Query and fragment -/

def isFragmentMark (character : Char) : Bool := character = '#'

def readFragment (input : List Char) : Option String :=
  match input with
  | '#' :: rest => some (String.ofList (percentEncode fragmentSet rest))
  | _ => none

/-- The query and the fragment that end a URL. -/
def readTail (kind : SchemeKind) (input : List Char) : Option String × Option String :=
  match input with
  | '?' :: rest =>
    let set := if kind = .other then querySet else specialQuerySet
    let query := rest.takeWhile (!isFragmentMark ·)
    (some (String.ofList (percentEncode set query)),
      readFragment (rest.dropWhile (!isFragmentMark ·)))
  | _ => (none, readFragment input)

/-! ### Authority -/

structure Userinfo where
  username : String
  password : Option String
  deriving DecidableEq, Repr

def Userinfo.none : Userinfo := ⟨"", .none⟩

def Userinfo.isNone (userinfo : Userinfo) : Bool :=
  userinfo.username.isEmpty && userinfo.password.isNone

/-- A name and a password; an empty password counts as none. -/
def Userinfo.read (text : List Char) : Userinfo :=
  let encode (part : List Char) := String.ofList (percentEncode userinfoSet part)
  match cutChars ':' text with
  | .none => ⟨encode text, .none⟩
  | some (name, []) => ⟨encode name, .none⟩
  | some (name, password) => ⟨encode name, some (encode password)⟩

/-- The parts of a text before and after the last `@`. -/
def cutLastAt (text : List Char) : Option (List Char × List Char) :=
  (cutChars '@' text.reverse).map fun (after, before) => (before.reverse, after.reverse)

/-- Parts the userinfo from what follows it. -/
def readUserinfo (kind : SchemeKind) (input : List Char) :
    Except UrlError (Userinfo × List Char) :=
  let authority := input.takeWhile (!kind.endsAuthority ·)
  match cutLastAt authority with
  | none => .ok (.none, input)
  | some (before, after) =>
    let rest := after ++ input.dropWhile (!kind.endsAuthority ·)
    if before.isEmpty && rest.head?.any kind.endsAuthority then .error .emptyHost
    else .ok (.read before, rest)

/-- The text of a host and what follows it; a colon inside brackets does not end it. -/
def splitHost (kind : SchemeKind) : (inBrackets : Bool) → List Char → List Char × List Char
  | _, [] => ([], [])
  | inBrackets, character :: rest =>
    if (character = ':' && !inBrackets) || kind.endsAuthority character then
      ([], character :: rest)
    else
      let inBrackets := character = '[' || (character != ']' && inBrackets)
      let (host, rest) := splitHost kind inBrackets rest
      (character :: host, rest)

/-- Reads a port of at most 65535. A path, a query or a fragment may follow, and nothing else. -/
def readPort (input : List Char) : Except UrlError (Option Nat × List Char) :=
  let digits := input.takeWhile isDigit
  let rest := input.dropWhile isDigit
  if decimalOfDigits digits > 65535 then .error .invalidPort
  else if rest.head?.any fun character => !"/\\?#".toList.contains character then
    .error .invalidPort
  else .ok (if digits.isEmpty then none else some (decimalOfDigits digits), rest)

def readHostAndPort (scheme : String) (kind : SchemeKind) (input : List Char) :
    Except UrlError (Host × Option Nat × List Char) := do
  let (text, rest) := splitHost kind false input
  if kind = .special && text.isEmpty then throw .emptyHost
  let host ← if kind = .other then Host.readOpaque text else Host.readSpecial text
  match rest with
  | ':' :: portText =>
    if host.isEmpty then throw .emptyHost
    let (port, rest) ← readPort portText
    return (host, if port = defaultPort? scheme then none else port, rest)
  | _ => return (host, none, rest)

/-- What follows the two slashes of an authority. -/
def readAuthority (scheme : String) (kind : SchemeKind) (input : List Char) :
    Except UrlError Url := do
  let (userinfo, rest) ← readUserinfo kind input
  let (host, port, rest) ← readHostAndPort scheme kind rest
  if host.isEmpty && !userinfo.isNone then throw .emptyHost
  let (names, rest) := readPathStart kind rest
  let (query, fragment) := readTail kind rest
  return {
    scheme, username := userinfo.username, password := userinfo.password, host := some host, port,
    path := pathOfNames names, query, fragment }

/-! ### Files -/

/-- A file path has no empty segments in front. -/
def dropLeadingEmpty : List (List Char) → List (List Char)
  | [] :: second :: rest => dropLeadingEmpty (second :: rest)
  | names => names

def fileUrl (host : Host) (names : List (List Char)) (rest : List Char) : Url :=
  let (query, fragment) := readTail .file rest
  { scheme := "file", username := "", password := none, host := some host, port := none
    path := pathOfNames (dropLeadingEmpty names), query, fragment }

def localHost : Host := .name ""

/-- A file URL; `localhost` and a drive letter in its place mean no host. -/
def readFile (input : List Char) : Except UrlError Url := do
  match input with
  | first :: second :: rest =>
    if SchemeKind.file.isSlash first && SchemeKind.file.isSlash second then
      let text := rest.takeWhile (!SchemeKind.file.endsAuthority ·)
      let after := rest.dropWhile (!SchemeKind.file.endsAuthority ·)
      if isDriveLetter text then
        let (names, tail) := readSegments .file rest [] []
        return fileUrl localHost names tail
      else
        let host ← if text.isEmpty then pure localHost else Host.readSpecial text
        let host := if host = .name "localhost" then localHost else host
        let (names, tail) := readPathStart .file after
        let host := if names.head?.any isNormalDriveLetter then localHost else host
        return fileUrl host names tail
    else
      let (names, tail) := readPathStart .file input
      return fileUrl localHost names tail
  | _ =>
    let (names, tail) := readPathStart .file input
    return fileUrl localHost names tail

/-! ### Other schemes without an authority -/

def isTailMark (character : Char) : Bool := character = '?' || character = '#'

def readRootless (scheme : String) (input : List Char) : Url :=
  let (path, rest) := match input with
    | '/' :: rest =>
      let (names, rest) := readSegments .other rest [] []
      (pathOfNames names, rest)
    | _ =>
      (.opaqueText (String.ofList (percentEncode controlSet (input.takeWhile (!isTailMark ·)))),
        input.dropWhile (!isTailMark ·))
  let (query, fragment) := readTail .other rest
  { scheme, username := "", password := none, host := none, port := none, path, query, fragment }

def parseChars (text : List Char) : Except UrlError Url :=
  match readScheme (clean text) with
  | none => .error .relativeWithoutBase
  | some (scheme, rest) =>
    let kind := SchemeKind.ofScheme scheme
    match kind with
    | .file => readFile rest
    | .special => readAuthority scheme kind (rest.dropWhile kind.isSlash)
    | .other =>
      match rest with
      | '/' :: '/' :: authority => readAuthority scheme kind authority
      | _ => .ok (readRootless scheme rest)

/-- Reads an absolute URL. -/
def parse (text : String) : Except UrlError Url := parseChars text.toList

end ClusterRest.Url
