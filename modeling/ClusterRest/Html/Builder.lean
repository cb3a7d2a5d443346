import ClusterRest.Html.Tree

/-! The state of tree construction, scopes and open elements. -/

namespace ClusterRest.Html

/-- How the next token is treated. -/
inductive Mode where
  | initial
  | beforeHtml
  | beforeHead
  | inHead
  | afterHead
  | inBody
  | inText
  | inTable
  | inTableText
  | inCaption
  | inColumnGroup
  | inTableBody
  | inRow
  | inCell
  | inSelect
  | inSelectInTable
  | inTemplate
  | afterBody
  | inFrameset
  | afterFrameset
  | afterAfterBody
  | afterAfterFrameset
  deriving DecidableEq, Repr, Inhabited

/-- An entry in the list of formatting elements: a marker, or an element and its tag. -/
inductive FormatEntry where
  | marker
  | element (id : NodeId) (tag : Tag)
  deriving Inhabited

def FormatEntry.isMarker : FormatEntry → Bool
  | .marker => true
  | .element _ _ => false

def FormatEntry.isFor (id : NodeId) : FormatEntry → Bool
  | .marker => false
  | .element other _ => other = id

/-- A document under construction. The innermost open element and the latest formatting element
come first in their lists. -/
structure Builder where
  tree : Tree
  mode : Mode
  originalMode : Mode
  templateModes : List Mode
  openElements : List NodeId
  formatting : List FormatEntry
  headElement : Option NodeId
  formElement : Option NodeId
  framesetOk : Bool
  fostering : Bool
  isQuirky : Bool
  pendingTableText : List Char
  skipLineFeed : Bool
  textMode : TextMode
  isFinished : Bool
  deriving Inhabited

def Builder.start : Builder where
  tree := .empty
  mode := .initial
  originalMode := .initial
  templateModes := []
  openElements := []
  formatting := []
  headElement := none
  formElement := none
  framesetOk := true
  fostering := false
  isQuirky := false
  pendingTableText := []
  skipLineFeed := false
  textMode := .data
  isFinished := false

abbrev Build := StateM Builder

/-! ### Names -/

def isHeading (name : String) : Bool := ["h1", "h2", "h3", "h4", "h5", "h6"].contains name

def specialHtml : List String := [
  "address", "applet", "area", "article", "aside", "base", "basefont", "bgsound", "blockquote",
  "body", "br", "button", "caption", "center", "col", "colgroup", "dd", "details", "dir", "div",
  "dl", "dt", "embed", "fieldset", "figcaption", "figure", "footer", "form", "frame", "frameset",
  "h1", "h2", "h3", "h4", "h5", "h6", "head", "header", "hgroup", "hr", "html", "iframe", "img",
  "input", "isindex", "li", "link", "listing", "main", "marquee", "menu", "meta", "nav", "noembed",
  "noframes", "noscript", "object", "ol", "p", "param", "plaintext", "pre", "script", "section",
  "select", "source", "style", "summary", "table", "tbody", "td", "template", "textarea", "tfoot",
  "th", "thead", "title", "tr", "track", "ul", "wbr", "xmp"]

def mathTextNames : List String := ["mi", "mo", "mn", "ms", "mtext"]

/-- Names of elements of vector graphics that hold ordinary content. -/
def graphicsHostNames : List String := ["foreignobject", "desc", "title"]

def isSpecial (element : Element) : Bool :=
  match element.space with
  | .html => specialHtml.contains element.name
  | .mathml => mathTextNames.contains element.name || element.name = "annotation-xml"
  | .svg => graphicsHostNames.contains element.name

/-- Elements beyond which no open element is in scope. -/
def endsScope (element : Element) : Bool :=
  match element.space with
  | .html =>
    ["applet", "caption", "html", "table", "td", "th", "marquee", "object", "template"].contains
      element.name
  | .mathml => mathTextNames.contains element.name || element.name = "annotation-xml"
  | .svg => graphicsHostNames.contains element.name

def isHtmlOneOf (names : List String) (element : Element) : Bool :=
  element.space = .html && names.contains element.name

def endsListScope (element : Element) : Bool :=
  endsScope element || isHtmlOneOf ["ol", "ul"] element

def endsButtonScope (element : Element) : Bool :=
  endsScope element || isHtmlOneOf ["button"] element

def endsTableScope (element : Element) : Bool :=
  isHtmlOneOf ["html", "table", "template"] element

def endsSelectScope (element : Element) : Bool :=
  !isHtmlOneOf ["optgroup", "option"] element

def impliedEndNames : List String :=
  ["dd", "dt", "li", "optgroup", "option", "p", "rb", "rp", "rt", "rtc"]

def thoroughEndNames : List String :=
  impliedEndNames ++ ["caption", "colgroup", "tbody", "td", "tfoot", "th", "thead", "tr"]

/-! ### Open elements -/

namespace Builder

def elementOf (builder : Builder) (id : NodeId) : Element :=
  (builder.tree.element? id).getD ⟨.html, "", []⟩

def isOneOf (builder : Builder) (names : List String) (id : NodeId) : Bool :=
  isHtmlOneOf names (builder.elementOf id)

def current? (builder : Builder) : Option NodeId := builder.openElements.head?

def currentIs (builder : Builder) (names : List String) : Bool :=
  builder.current?.any (builder.isOneOf names)

def hasOpen (builder : Builder) (name : String) : Bool :=
  builder.openElements.any (builder.isOneOf [name])

/-- Whether an element of one of the names is met before the scope ends. -/
def scan (builder : Builder) (names : List String) (ends : Element → Bool) : List NodeId → Bool
  | [] => false
  | id :: rest =>
    if builder.isOneOf names id then true
    else if ends (builder.elementOf id) then false
    else scan builder names ends rest

def inScope (builder : Builder) (names : List String) : Bool :=
  builder.scan names endsScope builder.openElements

def inListScope (builder : Builder) (name : String) : Bool :=
  builder.scan [name] endsListScope builder.openElements

def inButtonScope (builder : Builder) (name : String) : Bool :=
  builder.scan [name] endsButtonScope builder.openElements

def inTableScope (builder : Builder) (names : List String) : Bool :=
  builder.scan names endsTableScope builder.openElements

def inSelectScope (builder : Builder) (name : String) : Bool :=
  builder.scan [name] endsSelectScope builder.openElements

/-- Whether one particular element is in scope. -/
def idInScope (builder : Builder) (target : NodeId) : List NodeId → Bool
  | [] => false
  | id :: rest =>
    if id = target then true
    else if endsScope (builder.elementOf id) then false
    else idInScope builder target rest

/-- Where a node for `target` goes. Next to a table, text and elements that a table cannot hold go
in front of it. -/
def place (builder : Builder) (target : NodeId) : Tree.Place :=
  if builder.fostering && builder.isOneOf ["table", "tbody", "tfoot", "thead", "tr"] target then
    let untilTable := builder.openElements.takeWhile fun id => !builder.isOneOf ["table"] id
    match untilTable.find? (builder.isOneOf ["template"]) with
    | some template => .inside template
    | none =>
      match builder.openElements.find? (builder.isOneOf ["table"]) with
      | none => .inside (builder.openElements.getLast?.getD Tree.root)
      | some table =>
        if (builder.tree.parent? table).isSome then .before table
        else
          let outer := (builder.openElements.dropWhile (· != table)).drop 1
          .inside (outer.head?.getD Tree.root)
  else .inside target

def currentPlace (builder : Builder) : Tree.Place :=
  builder.place (builder.current?.getD Tree.root)

end Builder

def pop : Build Unit := modify fun builder =>
  { builder with openElements := builder.openElements.drop 1 }

def setMode (mode : Mode) : Build Unit := modify ({ · with mode })

def setFramesetNotOk : Build Unit := modify ({ · with framesetOk := false })

def setTextMode (textMode : TextMode) : Build Unit := modify ({ · with textMode })

/-- Pops elements up to and including the first of the given names. -/
def popThrough (names : List String) : Build Unit := modify fun builder =>
  { builder with openElements :=
      (builder.openElements.dropWhile (!builder.isOneOf names ·)).drop 1 }

/-- Pops elements until one of the given names is innermost. -/
def popBackTo (names : List String) : Build Unit := modify fun builder =>
  { builder with openElements := builder.openElements.dropWhile (!builder.isOneOf names ·) }

/-- Closes elements whose end tags may be left out. -/
def closeImplied (names : List String) : Build Unit := modify fun builder =>
  { builder with openElements := builder.openElements.dropWhile (builder.isOneOf names) }

def closeImpliedExcept (name : String) : Build Unit := closeImplied (impliedEndNames.erase name)

def closeParagraph : Build Unit := do
  closeImpliedExcept "p"
  popThrough ["p"]

def closeParagraphInScope : Build Unit := do
  if (← get).inButtonScope "p" then closeParagraph

def createElement (space : Space) (tag : Tag) : Build NodeId := do
  let builder ← get
  let (id, tree) := builder.tree.create (.element ⟨space, tag.name, tag.attributes⟩)
  set { builder with tree }
  return id

def insertElementIn (space : Space) (tag : Tag) : Build NodeId := do
  let place := (← get).currentPlace
  let id ← createElement space tag
  modify fun builder => { builder with
    tree := builder.tree.insertAt place id
    openElements := id :: builder.openElements }
  return id

def insertElement (tag : Tag) : Build Unit := do
  let _ ← insertElementIn .html tag

def insertVoid (tag : Tag) : Build Unit := do
  insertElement tag
  pop

def insertCharacter (character : Char) : Build Unit := modify fun builder =>
  if builder.openElements.isEmpty then builder
  else { builder with tree := builder.tree.insertCharacter builder.currentPlace character }

/-! ### Formatting elements -/

def pushMarker : Build Unit := modify fun builder =>
  { builder with formatting := .marker :: builder.formatting }

def clearToMarker : Build Unit := modify fun builder =>
  { builder with formatting := (builder.formatting.dropWhile (!·.isMarker)).drop 1 }

def sinceMarker (entries : List FormatEntry) : List FormatEntry := entries.takeWhile (!·.isMarker)

def isSameTag (first second : Tag) : Bool :=
  first.name = second.name && first.attributes.length = second.attributes.length &&
    first.attributes.all fun pair => second.attributes.contains pair

/-- Of four equal formatting elements the earliest is dropped. -/
def limitEqual (tag : Tag) (entries : List FormatEntry) : List FormatEntry :=
  let equal := (sinceMarker entries).filterMap fun entry => match entry with
    | .element id other => if isSameTag tag other then some id else none
    | .marker => none
  if equal.length < 3 then entries
  else match equal.getLast? with
    | some earliest => entries.filter (!·.isFor earliest)
    | none => entries

def insertFormatting (tag : Tag) : Build Unit := do
  let id ← insertElementIn .html tag
  modify fun builder => { builder with
    formatting := .element id tag :: limitEqual tag builder.formatting }

/-- Opens again the formatting elements that were closed by force. -/
def reopenFormatting : Build Unit := do
  let builder ← get
  let closed := builder.formatting.takeWhile fun entry => match entry with
    | .marker => false
    | .element id _ => !builder.openElements.contains id
  for entry in closed.reverse do
    match entry with
    | .marker => pure ()
    | .element old tag =>
      let id ← insertElementIn .html tag
      modify fun builder => { builder with
        formatting := builder.formatting.map fun entry =>
          if entry.isFor old then .element id tag else entry }

end ClusterRest.Html
