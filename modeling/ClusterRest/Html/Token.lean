import ClusterRest.Html.Reference

/-! Tokens of HTML: tags, characters and document types. Comments leave no token. -/

namespace ClusterRest.Html

open Text

structure Tag where
  name : String
  attributes : List (String × String)
  selfClosing : Bool
  deriving DecidableEq, Repr, Inhabited

def Tag.plain (name : String) : Tag := ⟨name, [], false⟩

def Tag.attribute? (tag : Tag) (name : String) : Option String :=
  (tag.attributes.find? (·.1 = name)).map (·.2)

inductive Token where
  | doctype (isQuirky : Bool)
  | opening (tag : Tag)
  | closing (name : String)
  | character (value : Char)
  | finish
  deriving DecidableEq, Repr, Inhabited

def isHtmlSpace (character : Char) : Bool :=
  character = '\t' || character = '\n' || character = '\x0c' || character = ' '

def lowered (characters : List Char) : String := .ofList (characters.map fun character =>
  if character = '\x00' then replacementCharacter else lowerAscii character)

/-! ### Tags -/

/-- What of a tag is being read. Parts under way are kept in reading order. -/
inductive TagStage where
  | name (letters : List Char)
  | beforeName
  | attributeName (letters : List Char)
  | afterName (name : List Char)
  | beforeValue (name : List Char)
  | quoted (name : List Char) (mark : Char) (value : List Char)
  | unquoted (name value : List Char)
  | afterQuoted
  | slash

def addAttribute (tag : Tag) (name value : List Char) : Tag :=
  let name := lowered name
  if (tag.attribute? name).isSome then tag
  else { tag with
    attributes := tag.attributes ++ [(name, String.ofList (decodeAttribute 0 value))] }

/-- Reads a tag up to its closing bracket; `none` where the text ends before it. -/
def readTag : List Char → TagStage → Tag → Option (Tag × List Char)
  | [], _, _ => none
  | character :: rest, stage, tag =>
    let beforeName (tag : Tag) (character : Char) : Option (Tag × List Char) :=
      if isHtmlSpace character then readTag rest .beforeName tag
      else if character = '/' then readTag rest .slash tag
      else if character = '>' then some (tag, rest)
      else readTag rest (.attributeName [character]) tag
    match stage with
    | .name letters =>
      if isHtmlSpace character || character = '/' || character = '>' then
        beforeName { tag with name := lowered letters } character
      else readTag rest (.name (letters ++ [character])) tag
    | .beforeName => beforeName tag character
    | .attributeName letters =>
      if isHtmlSpace character then readTag rest (.afterName letters) tag
      else if character = '/' || character = '>' then
        beforeName (addAttribute tag letters []) character
      else if character = '=' then readTag rest (.beforeValue letters) tag
      else readTag rest (.attributeName (letters ++ [character])) tag
    | .afterName name =>
      if isHtmlSpace character then readTag rest (.afterName name) tag
      else if character = '=' then readTag rest (.beforeValue name) tag
      else beforeName (addAttribute tag name []) character
    | .beforeValue name =>
      if isHtmlSpace character then readTag rest (.beforeValue name) tag
      else if character = '"' || character = '\'' then readTag rest (.quoted name character []) tag
      else if character = '>' then some (addAttribute tag name [], rest)
      else readTag rest (.unquoted name [character]) tag
    | .quoted name mark value =>
      if character = mark then readTag rest .afterQuoted (addAttribute tag name value)
      else readTag rest (.quoted name mark (value ++ [character])) tag
    | .unquoted name value =>
      if isHtmlSpace character then readTag rest .beforeName (addAttribute tag name value)
      else if character = '>' then some (addAttribute tag name value, rest)
      else readTag rest (.unquoted name (value ++ [character])) tag
    | .afterQuoted => beforeName tag character
    | .slash =>
      if character = '>' then some ({ tag with selfClosing := true }, rest)
      else beforeName tag character

/-! ### Comments and document types -/

/-- How much of a comment's end is read. -/
inductive CommentStage where
  | start
  | startDash
  | content
  | dash
  | dashes
  | bang
  deriving DecidableEq, Repr

/-- What follows a comment. -/
def skipComment : List Char → CommentStage → List Char
  | [], _ => []
  | character :: rest, stage =>
    match stage with
    | .start =>
      if character = '-' then skipComment rest .startDash
      else if character = '>' then rest
      else skipComment rest .content
    | .startDash =>
      if character = '-' then skipComment rest .dashes
      else if character = '>' then rest
      else skipComment rest .content
    | .content => skipComment rest (if character = '-' then .dash else .content)
    | .dash => skipComment rest (if character = '-' then .dashes else .content)
    | .dashes =>
      if character = '>' then rest
      else if character = '-' then skipComment rest .dashes
      else if character = '!' then skipComment rest .bang
      else skipComment rest .content
    | .bang =>
      if character = '>' then rest
      else skipComment rest (if character = '-' then .dash else .content)

def skipBogusComment (input : List Char) : List Char := (input.dropWhile (· != '>')).drop 1

/-- Public identifiers of document types that ask for the quirks of old browsers. -/
def quirkyPublicStarts : List String := [
  "+//silmaril//dtd html pro v0r11 19970101//", "-//as//dtd html 3.0 aswedit + extensions//",
  "-//advasoft ltd//dtd html 3.0 aswedit + extensions//", "-//ietf//dtd html 2.0 level 1//",
  "-//ietf//dtd html 2.0 level 2//", "-//ietf//dtd html 2.0 strict level 1//",
  "-//ietf//dtd html 2.0 strict level 2//", "-//ietf//dtd html 2.0 strict//",
  "-//ietf//dtd html 2.0//", "-//ietf//dtd html 2.1e//", "-//ietf//dtd html 3.0//",
  "-//ietf//dtd html 3.2 final//", "-//ietf//dtd html 3.2//", "-//ietf//dtd html 3//",
  "-//ietf//dtd html level 0//", "-//ietf//dtd html level 1//", "-//ietf//dtd html level 2//",
  "-//ietf//dtd html level 3//", "-//ietf//dtd html strict level 0//",
  "-//ietf//dtd html strict level 1//", "-//ietf//dtd html strict level 2//",
  "-//ietf//dtd html strict level 3//", "-//ietf//dtd html strict//", "-//ietf//dtd html//",
  "-//metrius//dtd metrius presentational//",
  "-//microsoft//dtd internet explorer 2.0 html strict//",
  "-//microsoft//dtd internet explorer 2.0 html//",
  "-//microsoft//dtd internet explorer 2.0 tables//",
  "-//microsoft//dtd internet explorer 3.0 html strict//",
  "-//microsoft//dtd internet explorer 3.0 html//",
  "-//microsoft//dtd internet explorer 3.0 tables//",
  "-//netscape comm. corp.//dtd html//", "-//netscape comm. corp.//dtd strict html//",
  "-//o'reilly and associates//dtd html 2.0//",
  "-//o'reilly and associates//dtd html extended 1.0//",
  "-//o'reilly and associates//dtd html extended relaxed 1.0//",
  "-//sq//dtd html 2.0 hotmetal + extensions//",
  "-//softquad software//dtd hotmetal pro 6.0::19990601::extensions to html 4.0//",
  "-//softquad//dtd hotmetal pro 4.0::19971010::extensions to html 4.0//",
  "-//spyglass//dtd html 2.0 extended//", "-//sun microsystems corp.//dtd hotjava html//",
  "-//sun microsystems corp.//dtd hotjava strict html//", "-//w3c//dtd html 3 1995-03-24//",
  "-//w3c//dtd html 3.2 draft//", "-//w3c//dtd html 3.2 final//", "-//w3c//dtd html 3.2//",
  "-//w3c//dtd html 3.2s draft//", "-//w3c//dtd html 4.0 frameset//",
  "-//w3c//dtd html 4.0 transitional//", "-//w3c//dtd html experimental 19960712//",
  "-//w3c//dtd html experimental 970421//", "-//w3c//dtd w3 html//", "-//w3o//dtd w3 html 3.0//",
  "-//webtechs//dtd mozilla html 2.0//", "-//webtechs//dtd mozilla html//"]

def quirkyPublicIdentifiers : List String :=
  ["-//w3o//dtd w3 html strict 3.0//en//", "-/w3c/dtd html 4.0 transitional/en", "html"]

/-- These ask for quirks only where no system identifier follows. -/
def quirkyWithoutSystem : List String :=
  ["-//w3c//dtd html 4.01 frameset//", "-//w3c//dtd html 4.01 transitional//"]

def quirkySystemIdentifier : String := "http://www.ibm.com/data/dtd/v11/ibmxhtml1-transitional.dtd"

/-- A document type as written: its name, its identifiers, and whether it is malformed. -/
structure Doctype where
  name : String
  publicIdentifier : Option String
  systemIdentifier : Option String
  isBroken : Bool

def Doctype.isQuirky (doctype : Doctype) : Bool :=
  let publicText := doctype.publicIdentifier.map asciiLower
  let startsWithOne (starts : List String) :=
    publicText.any fun text => starts.any fun start => start.toList.isPrefixOf text.toList
  doctype.isBroken || doctype.name != "html" ||
    publicText.any quirkyPublicIdentifiers.contains || startsWithOne quirkyPublicStarts ||
    (doctype.systemIdentifier.map asciiLower) == some quirkySystemIdentifier ||
    (doctype.systemIdentifier.isNone && startsWithOne quirkyWithoutSystem)

/-- A quoted identifier and what follows it; `isClosed` is false where the tag or the text ends
before the closing mark. -/
structure QuotedIdentifier where
  text : String
  isClosed : Bool
  rest : List Char

def readIdentifier? (input : List Char) : Option QuotedIdentifier :=
  match input.dropWhile isHtmlSpace with
  | mark :: rest =>
    if mark = '"' || mark = '\'' then
      let text := rest.takeWhile fun character => character != mark && character != '>'
      let after := rest.drop text.length
      some ⟨String.ofList text, after.head? == some mark,
        if after.head? == some mark then after.drop 1 else after⟩
    else none
  | [] => none

def startsWithIgnoringCase (word : String) (input : List Char) : Bool :=
  word.toList.isPrefixOf ((input.take word.length).map lowerAscii)

/-- Reads a document type after its keyword; the tag ends at the next closing bracket. -/
def readDoctype (input : List Char) : Doctype × List Char :=
  let start := input.dropWhile isHtmlSpace
  let name := start.takeWhile fun character => !isHtmlSpace character && character != '>'
  let after := (start.drop name.length).dropWhile isHtmlSpace
  let bare : Doctype := ⟨lowered name, none, none, name.isEmpty⟩
  let endsHere (rest : List Char) := (rest.dropWhile isHtmlSpace).head? == some '>'
  let doctype : Doctype × List Char :=
    if startsWithIgnoringCase "public" after then
      match readIdentifier? (after.drop 6) with
      | none => ({ bare with isBroken := true }, after)
      | some first =>
        let named := { bare with publicIdentifier := some first.text, isBroken := !first.isClosed }
        if !first.isClosed || endsHere first.rest then (named, first.rest)
        else match readIdentifier? first.rest with
          | none => ({ named with isBroken := true }, first.rest)
          | some second =>
            ({ named with systemIdentifier := some second.text, isBroken := !second.isClosed },
              second.rest)
    else if startsWithIgnoringCase "system" after then
      match readIdentifier? (after.drop 6) with
      | none => ({ bare with isBroken := true }, after)
      | some first =>
        ({ bare with systemIdentifier := some first.text, isBroken := !first.isClosed }, first.rest)
    else ({ bare with isBroken := bare.isBroken || after.head? != some '>' }, after)
  let isCut := !doctype.2.contains '>'
  ({ doctype.1 with isBroken := doctype.1.isBroken || isCut }, skipBogusComment doctype.2)

/-! ### Texts -/

/-- How text is read until the next tag. -/
inductive TextMode where
  | data
  | escapable
  | raw
  | script
  | scriptEscaped (dashes : Nat)
  | scriptDoubleEscaped (dashes : Nat)
  | plain
  deriving DecidableEq, Repr, Inhabited

/-- The end tag of an element that holds text only; its name is followed by a blank, a slash or a
closing bracket. -/
def readEndTag? (name : String) (input : List Char) : Option (Option (Tag × List Char)) :=
  let letters := input.takeWhile isAsciiLetter
  let rest := input.drop letters.length
  if lowered letters = name && !letters.isEmpty &&
      rest.head?.any (fun next => isHtmlSpace next || next = '/' || next = '>') then
    some (readTag input (.name []) (.plain ""))
  else none

/-- Tokens that the front of a text gives, the text after them, and how to go on. -/
structure Reading where
  tokens : List Token
  rest : List Char
  mode : TextMode

def characters (text : List Char) : List Token := text.map .character

def endTagReading (tag : Option (Tag × List Char)) : Reading :=
  match tag with
  | some (tag, rest) => ⟨[.closing tag.name], rest, .data⟩
  | none => ⟨[], [], .data⟩

/-- Text inside a section that admits any characters. -/
def readSection : List Char → List Char × List Char
  | ']' :: ']' :: '>' :: rest => ([], rest)
  | character :: rest =>
    let (content, rest) := readSection rest
    (character :: content, rest)
  | [] => ([], [])

/-- What follows `<!`. -/
def readDeclaration (admitsSections : Bool) (input : List Char) : Reading :=
  match input with
  | '-' :: '-' :: rest => ⟨[], skipComment rest .start, .data⟩
  | _ =>
    if startsWithIgnoringCase "doctype" input then
      let (doctype, rest) := readDoctype (input.drop 7)
      ⟨[.doctype doctype.isQuirky], rest, .data⟩
    else if admitsSections && "[CDATA[".toList.isPrefixOf input then
      let (content, rest) := readSection (input.drop 7)
      ⟨characters content, rest, .data⟩
    else ⟨[], skipBogusComment input, .data⟩

/-- What follows `<` in ordinary text. -/
def readMarkup (admitsSections : Bool) (input : List Char) : Reading :=
  match input with
  | '!' :: rest => readDeclaration admitsSections rest
  | '?' :: _ => ⟨[], skipBogusComment input, .data⟩
  | '/' :: '>' :: rest => ⟨[], rest, .data⟩
  | ['/'] => ⟨characters ['<', '/'], [], .data⟩
  | '/' :: letter :: rest =>
    if isAsciiLetter letter then endTagReading (readTag (letter :: rest) (.name []) (.plain ""))
    else ⟨[], skipBogusComment (letter :: rest), .data⟩
  | letter :: _ =>
    if isAsciiLetter letter then
      match readTag input (.name []) (.plain "") with
      | some (tag, rest) => ⟨[.opening tag], rest, .data⟩
      | none => ⟨[], [], .data⟩
    else ⟨[.character '<'], input, .data⟩
  | [] => ⟨[.character '<'], [], .data⟩

def readAmpersand (mode : TextMode) (input : List Char) : Reading :=
  match reference? false input with
  | some (text, rest) => ⟨characters text, rest, mode⟩
  | none => ⟨[.character '&'], input, mode⟩

def visible (character : Char) : Char :=
  if character = '\x00' then replacementCharacter else character

/-- The word `script` where it opens or closes the inner level of an escaped script. -/
def readScriptWord? (input : List Char) : Option (List Char) :=
  let letters := input.takeWhile isAsciiLetter
  let rest := input.drop letters.length
  match rest with
  | next :: _ =>
    if lowered letters = "script" && (isHtmlSpace next || next = '/' || next = '>') then
      some (letters ++ [next])
    else none
  | [] => none

/-- One step inside a script; `dashes` counts the dashes just before. -/
def readScript (character : Char) (rest : List Char) : TextMode → Reading
  | .scriptEscaped dashes =>
    if character = '-' then ⟨[.character '-'], rest, .scriptEscaped (dashes + 1)⟩
    else if character = '>' && dashes ≥ 2 then ⟨[.character '>'], rest, .script⟩
    else if character = '<' then
      match rest with
      | '/' :: after =>
        match readEndTag? "script" after with
        | some tag => endTagReading tag
        | none => ⟨characters ['<', '/'], after, .scriptEscaped 0⟩
      | _ =>
        match readScriptWord? rest with
        | some word =>
          ⟨characters ('<' :: word), rest.drop word.length, .scriptDoubleEscaped 0⟩
        | none => ⟨[.character '<'], rest, .scriptEscaped 0⟩
    else ⟨[.character (visible character)], rest, .scriptEscaped 0⟩
  | .scriptDoubleEscaped dashes =>
    if character = '-' then ⟨[.character '-'], rest, .scriptDoubleEscaped (dashes + 1)⟩
    else if character = '>' && dashes ≥ 2 then ⟨[.character '>'], rest, .script⟩
    else if character = '<' then
      match rest with
      | '/' :: after =>
        match readScriptWord? after with
        | some word =>
          ⟨characters ('<' :: '/' :: word), after.drop word.length, .scriptEscaped 0⟩
        | none => ⟨characters ['<', '/'], after, .scriptDoubleEscaped 0⟩
      | _ => ⟨[.character '<'], rest, .scriptDoubleEscaped 0⟩
    else ⟨[.character (visible character)], rest, .scriptDoubleEscaped 0⟩
  | mode =>
    if character = '<' then
      match rest with
      | '!' :: '-' :: '-' :: after => ⟨characters "<!--".toList, after, .scriptEscaped 2⟩
      | '/' :: after =>
        match readEndTag? "script" after with
        | some tag => endTagReading tag
        | none => ⟨[.character '<'], rest, mode⟩
      | _ => ⟨[.character '<'], rest, mode⟩
    else ⟨[.character (visible character)], rest, mode⟩

/-- Reads from a text whose first character is given. `lastOpened` is the name of the last start
tag; sections with free text are admitted inside foreign elements only. -/
def readNext (lastOpened : String) (admitsSections : Bool) (mode : TextMode) (character : Char)
    (rest : List Char) : Reading :=
  let endTag? := match rest with
    | '/' :: after => if character = '<' then readEndTag? lastOpened after else none
    | _ => none
  match mode with
  | .data =>
    if character = '<' then readMarkup admitsSections rest
    else if character = '&' then readAmpersand .data rest
    else ⟨[.character character], rest, .data⟩
  | .escapable =>
    match endTag? with
    | some tag => endTagReading tag
    | none =>
      if character = '&' then readAmpersand .escapable rest
      else ⟨[.character (visible character)], rest, .escapable⟩
  | .raw =>
    match endTag? with
    | some tag => endTagReading tag
    | none => ⟨[.character (visible character)], rest, .raw⟩
  | .plain => ⟨[.character (visible character)], rest, .plain⟩
  | _ => readScript character rest mode

/-- Line ends as line feeds, and no mark of byte order in front. -/
def normalizeLines : List Char → List Char
  | '\r' :: '\n' :: rest => '\n' :: normalizeLines rest
  | '\r' :: rest => '\n' :: normalizeLines rest
  | character :: rest => character :: normalizeLines rest
  | [] => []

def prepareInput (text : String) : List Char :=
  match text.toList with
  | '\uFEFF' :: rest => normalizeLines rest
  | input => normalizeLines input

end ClusterRest.Html
