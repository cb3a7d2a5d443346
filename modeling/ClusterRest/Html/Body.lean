import ClusterRest.Html.Head

/-! What each token does in the body of a document. -/

namespace ClusterRest.Html

def blockNames : List String := [
  "address", "article", "aside", "blockquote", "center", "details", "dialog", "dir", "div", "dl",
  "fieldset", "figcaption", "figure", "footer", "header", "hgroup", "main", "menu", "nav", "ol",
  "p", "section", "summary", "ul"]

def blockEndNames : List String :=
  (blockNames.erase "p") ++ ["button", "listing", "pre"]

def formattingNames : List String := [
  "b", "big", "code", "em", "font", "i", "s", "small", "strike", "strong", "tt", "u"]

def misplacedNames : List String := [
  "caption", "col", "colgroup", "frame", "head", "tbody", "td", "tfoot", "th", "thead", "tr"]

/-- Closes the item of a list that a new item ends. -/
def closeItem (names : List String) : Build Unit := modify fun builder =>
  let rec findItem : List NodeId → Option String
    | [] => none
    | id :: rest =>
      let element := builder.elementOf id
      if isHtmlOneOf names element then some element.name
      else if isSpecial element && !isHtmlOneOf ["address", "div", "p"] element then none
      else findItem rest
  match findItem builder.openElements with
  | none => builder
  | some name =>
    let kept := builder.openElements.dropWhile (builder.isOneOf (impliedEndNames.erase name))
    { builder with
      openElements := (kept.dropWhile (!builder.isOneOf [name] ·)).drop 1 }

def openItem (names : List String) (tag : Tag) : Build Unit := do
  setFramesetNotOk
  closeItem names
  closeParagraphInScope
  insertElement tag

def openAnchor (tag : Tag) : Build Unit := do
  let builder ← get
  let earlier := (sinceMarker builder.formatting).findSome? fun entry => match entry with
    | .element id other => if other.name = "a" then some id else none
    | .marker => none
  if let some id := earlier then
    closeFormatting "a"
    modify fun builder => { builder with
      formatting := removeEntry id builder.formatting
      openElements := builder.openElements.erase id }
  reopenFormatting
  insertFormatting tag

def openForeign (space : Space) (tag : Tag) : Build Unit := do
  let _ ← insertElementIn space tag
  if tag.selfClosing then pop

def isHidden (tag : Tag) : Bool := (tag.attribute? "type").any fun kind => Text.asciiLower kind = "hidden"

def openFrameset (tag : Tag) : Build Unit := do
  let builder ← get
  match builder.openElements.reverse with
  | root :: body :: _ =>
    if builder.isOneOf ["body"] body && builder.framesetOk then
      set { builder with tree := builder.tree.detach body, openElements := [root] }
      insertElement tag
      setMode .inFrameset
  | _ => pure ()

def openSelect (tag : Tag) : Build Unit := do
  reopenFormatting
  insertElement tag
  setFramesetNotOk
  let mode := (← get).mode
  let inTable := [Mode.inTable, .inCaption, .inTableBody, .inRow, .inCell].contains mode
  setMode (if inTable then .inSelectInTable else .inSelect)

def headingNames : List String := ["h1", "h2", "h3", "h4", "h5", "h6"]

def openHeading (tag : Tag) : Build Unit := do
  closeParagraphInScope
  if (← get).currentIs headingNames then pop
  insertElement tag

def openForm (tag : Tag) : Build Unit := do
  let inTemplate := (← get).hasOpen "template"
  if (← get).formElement.isNone || inTemplate then
    closeParagraphInScope
    let id ← insertElementIn .html tag
    if !inTemplate then modify ({ · with formElement := some id })

def openButton (tag : Tag) : Build Unit := do
  if (← get).inScope ["button"] then
    closeImplied impliedEndNames
    popThrough ["button"]
  reopenFormatting
  insertElement tag
  setFramesetNotOk

def openNobreak (tag : Tag) : Build Unit := do
  reopenFormatting
  if (← get).inScope ["nobr"] then
    closeFormatting "nobr"
    reopenFormatting
  insertFormatting tag

def openTable (tag : Tag) : Build Unit := do
  if !(← get).isQuirky then closeParagraphInScope
  insertElement tag
  setFramesetNotOk
  setMode .inTable

def openRuby (tag : Tag) : Build Unit := do
  if (← get).inScope ["ruby"] then
    if tag.name = "rb" || tag.name = "rtc" then closeImplied impliedEndNames
    else closeImpliedExcept "rtc"
  insertElement tag

/-- A start tag with a preceding paragraph closed, whose first line feed is dropped. -/
def openPreformatted (tag : Tag) : Build Unit := do
  closeParagraphInScope
  insertElement tag
  modify ({ · with skipLineFeed := true, framesetOk := false })

def openVoidInBody (tag : Tag) : Build Unit := do
  reopenFormatting
  insertVoid tag
  setFramesetNotOk

/-- Start tags of elements whose content is text only. -/
def openTextInBody (tag : Tag) : Build Unit := do
  if tag.name = "textarea" then
    openText tag .escapable
    modify ({ · with skipLineFeed := true, framesetOk := false })
  else if tag.name = "xmp" then
    closeParagraphInScope
    reopenFormatting
    setFramesetNotOk
    openText tag .raw
  else
    if tag.name = "iframe" then setFramesetNotOk
    openText tag .raw

def openInBody (tag : Tag) : Build Outcome := do
  let name := tag.name
  if headNames.contains name then return .by .inHead
  if name = "html" || name = "body" then
    if name = "body" then setFramesetNotOk
  else if name = "frameset" then openFrameset tag
  else if isHeading name then openHeading tag
  else if blockNames.contains name then
    closeParagraphInScope
    insertElement tag
  else if name = "pre" || name = "listing" then openPreformatted tag
  else if name = "form" then openForm tag
  else if name = "li" then openItem ["li"] tag
  else if name = "dd" || name = "dt" then openItem ["dd", "dt"] tag
  else if name = "plaintext" then
    closeParagraphInScope
    insertElement tag
    setTextMode .plain
  else if name = "button" then openButton tag
  else if name = "a" then openAnchor tag
  else if formattingNames.contains name then
    reopenFormatting
    insertFormatting tag
  else if name = "nobr" then openNobreak tag
  else if ["applet", "marquee", "object"].contains name then
    reopenFormatting
    insertElement tag
    pushMarker
    setFramesetNotOk
  else if name = "table" then openTable tag
  else if ["area", "br", "embed", "img", "keygen", "wbr"].contains name then openVoidInBody tag
  else if name = "image" then openVoidInBody { tag with name := "img" }
  else if name = "input" then
    reopenFormatting
    insertVoid tag
    if !isHidden tag then setFramesetNotOk
  else if ["param", "source", "track"].contains name then insertVoid tag
  else if name = "hr" then
    closeParagraphInScope
    insertVoid tag
    setFramesetNotOk
  else if ["textarea", "xmp", "iframe", "noembed", "noscript"].contains name then openTextInBody tag
  else if name = "select" then openSelect tag
  else if name = "optgroup" || name = "option" then
    if (← get).currentIs ["option"] then pop
    reopenFormatting
    insertElement tag
  else if ["rb", "rtc", "rp", "rt"].contains name then openRuby tag
  else if name = "math" || name = "svg" then
    reopenFormatting
    openForeign (if name = "svg" then .svg else .mathml) tag
  else if misplacedNames.contains name then pure ()
  else
    reopenFormatting
    insertElement tag
  return .done

def closeForm : Build Unit := do
  let builder ← get
  if builder.hasOpen "template" then
    if builder.inScope ["form"] then
      closeImplied impliedEndNames
      popThrough ["form"]
  else
    set { builder with formElement := none }
    if let some form := builder.formElement then
      if builder.idInScope form builder.openElements then
        closeImplied impliedEndNames
        modify fun builder => { builder with openElements := builder.openElements.erase form }

/-- Closes an element that is in scope, with those inside it. -/
def closeInScope (name : String) : Build Unit := do
  if (← get).inScope [name] then
    closeImpliedExcept name
    popThrough [name]

def closeInBody (name : String) : Build Outcome := do
  if name = "template" then return .by .inHead
  if name = "body" || name = "html" then
    if (← get).inScope ["body"] then
      setMode .afterBody
      return if name = "html" then .again else .done
  else if blockEndNames.contains name then
    if (← get).inScope [name] then
      closeImplied impliedEndNames
      popThrough [name]
  else if name = "form" then closeForm
  else if name = "p" then
    if !(← get).inButtonScope "p" then insertElement (.plain "p")
    closeParagraph
  else if name = "li" then
    if (← get).inListScope "li" then
      closeImpliedExcept "li"
      popThrough ["li"]
  else if name = "dd" || name = "dt" then closeInScope name
  else if isHeading name then
    if (← get).inScope headingNames then
      closeImplied impliedEndNames
      popThrough headingNames
  else if name = "a" || name = "nobr" || formattingNames.contains name then closeFormatting name
  else if ["applet", "marquee", "object"].contains name then
    if (← get).inScope [name] then
      closeImplied impliedEndNames
      popThrough [name]
      clearToMarker
  else if name = "br" then openVoidInBody (.plain "br")
  else closeOrdinary name
  return .done

def stepInBody (token : Token) : Build Outcome := do
  match token with
  | .character value =>
    if value = '\x00' then return .done
    reopenFormatting
    insertCharacter value
    if !isHtmlSpace value then setFramesetNotOk
    return .done
  | .doctype _ => return .done
  | .opening tag => openInBody tag
  | .closing name => closeInBody name
  | .finish =>
    if !(← get).templateModes.isEmpty then return .by .inTemplate
    modify ({ · with isFinished := true })
    return .done

def stepInText (token : Token) : Build Outcome := do
  match token with
  | .character value =>
    insertCharacter value
    return .done
  | .finish =>
    pop
    setMode (← get).originalMode
    return .again
  | .closing _ =>
    pop
    setMode (← get).originalMode
    return .done
  | _ => return .done

end ClusterRest.Html
