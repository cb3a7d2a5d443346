import ClusterRest.Html.Table
import ClusterRest.Text.Blank

/-! Whole documents: the remaining insertion modes, foreign content, and reading a page. -/

namespace ClusterRest.Html

def goOnAs (mode : Mode) : Build Outcome := do
  modify fun builder => { builder with
    templateModes := mode :: builder.templateModes.drop 1, mode }
  return .again

def finishDocument : Build Outcome := do
  modify ({ · with isFinished := true })
  return .done

def stepInTemplate (token : Token) : Build Outcome := do
  match token with
  | .character _ | .doctype _ => return .by .inBody
  | .opening tag =>
    let name := tag.name
    if headNames.contains name then return .by .inHead
    else if ["caption", "colgroup", "tbody", "tfoot", "thead"].contains name then goOnAs .inTable
    else if name = "col" then goOnAs .inColumnGroup
    else if name = "tr" then goOnAs .inTableBody
    else if name = "td" || name = "th" then goOnAs .inRow
    else goOnAs .inBody
  | .closing name => return if name = "template" then .by .inHead else .done
  | .finish =>
    if (← get).hasOpen "template" then
      popThrough ["template"]
      clearToMarker
      modify fun builder => { builder with templateModes := builder.templateModes.drop 1 }
      resetMode
      return .again
    else finishDocument

def resumeBody : Build Outcome := do
  setMode .inBody
  return .again

def isHtmlTag : Token → Bool
  | .opening tag => tag.name = "html"
  | _ => false

def stepAfterBody (token : Token) : Build Outcome := do
  if isBlankToken token || isHtmlTag token then return .by .inBody
  match token with
  | .doctype _ => return .done
  | .closing name =>
    if name = "html" then
      setMode .afterAfterBody
      return .done
    else resumeBody
  | .finish => finishDocument
  | _ => resumeBody

def stepAfterAfterBody (token : Token) : Build Outcome := do
  if isBlankToken token || isHtmlTag token then return .by .inBody
  match token with
  | .doctype _ => return .by .inBody
  | .finish => finishDocument
  | _ => resumeBody

def stepInFrameset (token : Token) : Build Outcome := do
  match token with
  | .character value =>
    if isHtmlSpace value then insertCharacter value
    return .done
  | .opening tag =>
    if tag.name = "html" then return .by .inBody
    else if tag.name = "frameset" then insertElement tag
    else if tag.name = "frame" then insertVoid tag
    else if tag.name = "noframes" then return .by .inHead
    return .done
  | .closing name =>
    if name = "frameset" && (← get).openElements.length > 1 then
      pop
      if !(← get).currentIs ["frameset"] then setMode .afterFrameset
    return .done
  | .finish => finishDocument
  | .doctype _ => return .done

def stepAfterFrameset (token : Token) : Build Outcome := do
  match token with
  | .character value =>
    if isHtmlSpace value then insertCharacter value
    return .done
  | .opening tag =>
    if tag.name = "html" then return .by .inBody
    else if tag.name = "noframes" then return .by .inHead
    return .done
  | .closing name =>
    if name = "html" then setMode .afterAfterFrameset
    return .done
  | .finish => finishDocument
  | .doctype _ => return .done

def stepAfterAfterFrameset (token : Token) : Build Outcome := do
  match token with
  | .opening tag =>
    if tag.name = "html" then return .by .inBody
    else if tag.name = "noframes" then return .by .inHead
    else return .done
  | .finish => finishDocument
  | _ => return if isBlankToken token then .by .inBody else .done

def stepIn (mode : Mode) (token : Token) : Build Outcome :=
  match mode with
  | .initial => stepInitial token
  | .beforeHtml => stepBeforeHtml token
  | .beforeHead => stepBeforeHead token
  | .inHead => stepInHead token
  | .afterHead => stepAfterHead token
  | .inBody => stepInBody token
  | .inText => stepInText token
  | .inTable => stepInTable token
  | .inTableText => stepInTableText token
  | .inCaption => stepInCaption token
  | .inColumnGroup => stepInColumnGroup token
  | .inTableBody => stepInTableBody token
  | .inRow => stepInRow token
  | .inCell => stepInCell token
  | .inSelect => stepInSelect token
  | .inSelectInTable => stepInSelectInTable token
  | .inTemplate => stepInTemplate token
  | .afterBody => stepAfterBody token
  | .inFrameset => stepInFrameset token
  | .afterFrameset => stepAfterFrameset token
  | .afterAfterBody => stepAfterAfterBody token
  | .afterAfterFrameset => stepAfterAfterFrameset token

/-! ### Foreign content -/

def isMathText (element : Element) : Bool :=
  element.space = .mathml && mathTextNames.contains element.name

/-- Foreign elements that hold ordinary content. -/
def holdsHtml (element : Element) : Bool :=
  match element.space with
  | .html => false
  | .svg => graphicsHostNames.contains element.name
  | .mathml =>
    element.name = "annotation-xml" &&
      (element.attributes.find? (·.1 = "encoding")).any fun pair =>
        ["text/html", "application/xhtml+xml"].contains (Text.asciiLower pair.2)

/-- Whether a token is treated by the rules of foreign content. -/
def isForeign (builder : Builder) (token : Token) : Bool :=
  match builder.current? with
  | none => false
  | some id =>
    let element := builder.elementOf id
    let isPlain := match token with
      | .finish => true
      | .opening tag =>
        (isMathText element && tag.name != "mglyph" && tag.name != "malignmark") ||
          (element.space = .mathml && element.name = "annotation-xml" && tag.name = "svg") ||
          holdsHtml element
      | .character _ => isMathText element || holdsHtml element
      | _ => false
    element.space != .html && !isPlain

/-- Start tags that end foreign content. -/
def breakoutNames : List String := [
  "b", "big", "blockquote", "body", "br", "center", "code", "dd", "div", "dl", "dt", "em", "embed",
  "h1", "h2", "h3", "h4", "h5", "h6", "head", "hr", "i", "img", "li", "listing", "menu", "meta",
  "nobr", "ol", "p", "pre", "ruby", "s", "small", "span", "strong", "strike", "sub", "sup", "table",
  "tt", "u", "ul", "var"]

def breaksOut (tag : Tag) : Bool :=
  breakoutNames.contains tag.name ||
    (tag.name = "font" && ["color", "face", "size"].any fun name => (tag.attribute? name).isSome)

def leaveForeign : Build Outcome := do
  modify fun builder => { builder with
    openElements := builder.openElements.dropWhile fun id =>
      let element := builder.elementOf id
      !(element.space = .html || isMathText element || holdsHtml element) }
  return .by (← get).mode

/-- Closes the innermost foreign element of a name; an ordinary element before it takes over. -/
def closeForeign (name : String) : Build Outcome := do
  let builder ← get
  let inner := builder.openElements.takeWhile fun id =>
    let element := builder.elementOf id
    element.space != .html && Text.asciiLower element.name != name
  match builder.openElements.drop inner.length with
  | id :: outer =>
    if (builder.elementOf id).space = .html then return .by builder.mode
    set { builder with openElements := outer }
    return .done
  | [] => return .done

def stepForeign (token : Token) : Build Outcome := do
  match token with
  | .character value =>
    insertCharacter (visible value)
    if value != '\x00' && !isHtmlSpace value then setFramesetNotOk
    return .done
  | .opening tag =>
    if breaksOut tag then leaveForeign
    else
      let builder ← get
      let space := (builder.current?.map fun id => (builder.elementOf id).space).getD .html
      openForeign space tag
      return .done
  | .closing name => if name = "br" || name = "p" then leaveForeign else closeForeign name
  | _ => return .done

/-! ### Reading a page -/

/-- By which rules a token is treated: those that its place asks for, or those of a mode. -/
inductive Rules where
  | ofPlace
  | ofMode (mode : Mode)

def stepByPlace (token : Token) : Build Outcome := do
  let builder ← get
  if isForeign builder token then stepForeign token else stepIn builder.mode token

def setFostering (fostering : Bool) : Build Unit := modify ({ · with fostering })

/-- Treats a token until nothing is left to do with it; `fuel` bounds how often it is taken up. -/
def treat : (fuel : Nat) → Rules → Token → Build Unit
  | 0, _, _ => pure ()
  | fuel + 1, rules, token => do
    let outcome ← match rules with
      | .ofPlace => stepByPlace token
      | .ofMode mode => stepIn mode token
    match outcome with
    | .done => pure ()
    | .again => treat fuel .ofPlace token
    | .by mode => treat fuel (.ofMode mode) token
    | .fostered =>
      setFostering true
      treat fuel (.ofMode .inBody) token
      setFostering false
    | .flushing text =>
      if text.all isHtmlSpace then text.forM insertCharacter
      else
        setFostering true
        text.forM fun value => treat fuel (.ofMode .inBody) (.character value)
        setFostering false
      treat fuel .ofPlace token

/-- Each time a token is taken up again, an element closes or a mode ends. -/
def fuelFor (builder : Builder) : Nat :=
  64 + 8 * (builder.openElements.length + builder.templateModes.length)

def treatToken (token : Token) : Build Unit := do
  let builder ← get
  set { builder with skipLineFeed := false }
  if !(builder.skipLineFeed && token = .character '\n') then
    treat (fuelFor builder) .ofPlace token

def openedName (lastOpened : String) : Token → String
  | .opening tag => tag.name
  | _ => lastOpened

/-- Reads a text to its end; `fuel` bounds the number of readings. -/
def readText : (fuel : Nat) → (lastOpened : String) → List Char → Build Unit
  | 0, _, _ => pure ()
  | _ + 1, _, [] => treatToken .finish
  | fuel + 1, lastOpened, character :: rest => do
    let builder ← get
    let inForeign := builder.current?.any fun id => (builder.elementOf id).space != .html
    let reading := readNext lastOpened inForeign builder.textMode character rest
    setTextMode reading.mode
    reading.tokens.forM treatToken
    readText fuel (reading.tokens.foldl openedName lastOpened) reading.rest

def readPage (text : String) : Tree :=
  let input := prepareInput text
  ((readText (input.length + 1) "" input).run .start).2.tree

/-- The text of the first element of a name, without blanks at its ends. -/
def firstText? (tree : Tree) (name : String) : Option String :=
  (tree.firstNamed? name).map fun id => Text.trim (tree.textOf id)

/-- What a page says in short: its first heading, or else its title. -/
def headline (page : String) : String :=
  let tree := readPage page
  match firstText? tree "h1" with
  | some heading =>
    if heading.isEmpty then (firstText? tree "title").getD "" else heading
  | none => (firstText? tree "title").getD ""

end ClusterRest.Html
