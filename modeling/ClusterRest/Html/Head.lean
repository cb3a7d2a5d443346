import ClusterRest.Html.Adoption

/-! What each token does up to the body of a document. -/

namespace ClusterRest.Html

/-- What remains to be done with a token: nothing, or to take it up again as its place asks, by the
rules of a mode, as content that a table cannot hold, or after text that has waited. -/
inductive Outcome where
  | done
  | again
  | by (mode : Mode)
  | fostered
  | flushing (text : List Char)
  deriving DecidableEq, Repr

/-- Opens an element whose content is text up to its end tag. -/
def openText (tag : Tag) (textMode : TextMode) : Build Unit := do
  insertElement tag
  modify fun builder =>
    { builder with originalMode := builder.mode, mode := .inText, textMode }

/-- The insertion mode that the open elements call for. -/
def modeFor (builder : Builder) : List NodeId → Mode
  | [] => .inBody
  | id :: outer =>
    let element := builder.elementOf id
    let isLast := outer.isEmpty
    let name := if element.space = .html then element.name else ""
    if name = "select" then
      let inner := outer.takeWhile fun id => !builder.isOneOf ["template"] id
      if inner.any (builder.isOneOf ["table"]) then .inSelectInTable else .inSelect
    else if (name = "td" || name = "th") && !isLast then .inCell
    else if name = "tr" then .inRow
    else if name = "tbody" || name = "thead" || name = "tfoot" then .inTableBody
    else if name = "caption" then .inCaption
    else if name = "colgroup" then .inColumnGroup
    else if name = "table" then .inTable
    else if name = "template" then builder.templateModes.head?.getD .inBody
    else if name = "head" && !isLast then .inHead
    else if name = "body" then .inBody
    else if name = "frameset" then .inFrameset
    else if name = "html" then if builder.headElement.isNone then .beforeHead else .afterHead
    else modeFor builder outer

def resetMode : Build Unit := modify fun builder =>
  { builder with mode := modeFor builder builder.openElements }

def closeTemplate : Build Unit := do
  if (← get).hasOpen "template" then
    closeImplied thoroughEndNames
    popThrough ["template"]
    clearToMarker
    modify fun builder => { builder with templateModes := builder.templateModes.drop 1 }
    resetMode

def openTemplate (tag : Tag) : Build Unit := do
  insertElement tag
  pushMarker
  modify fun builder => { builder with
    framesetOk := false
    mode := .inTemplate
    templateModes := .inTemplate :: builder.templateModes }

/-- Start tags that belong into the head wherever they occur. -/
def headNames : List String := [
  "base", "basefont", "bgsound", "link", "meta", "noframes", "script", "style", "template", "title"]

def openInHead (tag : Tag) : Build Unit := do
  if tag.name = "title" then openText tag .escapable
  else if ["noframes", "style", "noscript"].contains tag.name then openText tag .raw
  else if tag.name = "script" then openText tag .script
  else if tag.name = "template" then openTemplate tag
  else insertVoid tag

def isBlankToken : Token → Bool
  | .character value => isHtmlSpace value
  | _ => false

def stepInitial : Token → Build Outcome
  | .doctype isQuirky => do
    modify ({ · with isQuirky, mode := .beforeHtml })
    return .done
  | token => do
    if isBlankToken token then return .done
    modify ({ · with isQuirky := true, mode := .beforeHtml })
    return .again

/-- End tags that make up for a missing start tag early in a document. -/
def earlyEndNames : List String := ["head", "body", "html", "br"]

def openRoot (tag : Tag) : Build Unit := do
  let id ← createElement .html tag
  modify fun builder => { builder with
    tree := builder.tree.append Tree.root id
    openElements := [id]
    mode := .beforeHead }

def stepBeforeHtml (token : Token) : Build Outcome := do
  let otherwise : Build Outcome := do
    openRoot (.plain "html")
    return .again
  match token with
  | .doctype _ => return .done
  | .opening tag =>
    if tag.name = "html" then
      openRoot tag
      return .done
    else otherwise
  | .closing name => if earlyEndNames.contains name then otherwise else return .done
  | _ => if isBlankToken token then return .done else otherwise

def openHead (tag : Tag) : Build Unit := do
  let id ← insertElementIn .html tag
  modify ({ · with headElement := some id, mode := .inHead })

def stepBeforeHead (token : Token) : Build Outcome := do
  let otherwise : Build Outcome := do
    openHead (.plain "head")
    return .again
  match token with
  | .doctype _ => return .done
  | .opening tag =>
    if tag.name = "html" then return .by .inBody
    else if tag.name = "head" then
      openHead tag
      return .done
    else otherwise
  | .closing name => if earlyEndNames.contains name then otherwise else return .done
  | _ => if isBlankToken token then return .done else otherwise

def stepInHead (token : Token) : Build Outcome := do
  let otherwise : Build Outcome := do
    pop
    setMode .afterHead
    return .again
  match token with
  | .character value =>
    if isHtmlSpace value then
      insertCharacter value
      return .done
    else otherwise
  | .doctype _ => return .done
  | .opening tag =>
    if tag.name = "html" then return .by .inBody
    else if headNames.contains tag.name || tag.name = "noscript" then
      openInHead tag
      return .done
    else if tag.name = "head" then return .done
    else otherwise
  | .closing name =>
    if name = "head" then
      pop
      setMode .afterHead
      return .done
    else if ["body", "html", "br"].contains name then otherwise
    else if name = "template" then
      closeTemplate
      return .done
    else return .done
  | .finish => otherwise

def stepAfterHead (token : Token) : Build Outcome := do
  let otherwise : Build Outcome := do
    insertElement (.plain "body")
    setMode .inBody
    return .again
  match token with
  | .character value =>
    if isHtmlSpace value then
      insertCharacter value
      return .done
    else otherwise
  | .doctype _ => return .done
  | .opening tag =>
    if tag.name = "html" then return .by .inBody
    else if tag.name = "body" then
      insertElement tag
      setFramesetNotOk
      setMode .inBody
      return .done
    else if tag.name = "frameset" then
      insertElement tag
      setMode .inFrameset
      return .done
    else if headNames.contains tag.name then
      match (← get).headElement with
      | none => return .done
      | some head =>
        modify fun builder => { builder with openElements := head :: builder.openElements }
        openInHead tag
        modify fun builder => { builder with openElements := builder.openElements.erase head }
        return .done
    else if tag.name = "head" then return .done
    else otherwise
  | .closing name =>
    if name = "template" then return .by .inHead
    else if ["body", "html", "br"].contains name then otherwise
    else return .done
  | .finish => otherwise

end ClusterRest.Html
