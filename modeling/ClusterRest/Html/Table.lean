import ClusterRest.Html.Body

/-! What each token does inside tables and selections. -/

namespace ClusterRest.Html

def sectionNames : List String := ["tbody", "tfoot", "thead"]

def cellNames : List String := ["td", "th"]

def tablePartNames : List String :=
  ["caption", "col", "colgroup", "tbody", "td", "tfoot", "th", "thead", "tr"]

/-- Closes a table, and goes on as its surroundings ask. -/
def closeTable : Build Unit := do
  popThrough ["table"]
  resetMode

def backToTable : Build Unit := popBackTo ["table", "template", "html"]

def backToSection : Build Unit := popBackTo ["tbody", "tfoot", "thead", "template", "html"]

def backToRow : Build Unit := popBackTo ["tr", "template", "html"]

def openInTable (tag : Tag) : Build Outcome := do
  let name := tag.name
  if name = "caption" then
    backToTable
    pushMarker
    insertElement tag
    setMode .inCaption
    return .done
  else if name = "colgroup" then
    backToTable
    insertElement tag
    setMode .inColumnGroup
    return .done
  else if name = "col" then
    backToTable
    insertElement (.plain "colgroup")
    setMode .inColumnGroup
    return .again
  else if sectionNames.contains name then
    backToTable
    insertElement tag
    setMode .inTableBody
    return .done
  else if name = "tr" || cellNames.contains name then
    backToTable
    insertElement (.plain "tbody")
    setMode .inTableBody
    return .again
  else if name = "table" then
    if (← get).inTableScope ["table"] then
      closeTable
      return .again
    else return .done
  else if ["style", "script", "template"].contains name then return .by .inHead
  else if name = "input" && isHidden tag then
    insertVoid tag
    return .done
  else if name = "form" then
    let builder ← get
    if !builder.hasOpen "template" && builder.formElement.isNone then
      let id ← insertElementIn .html tag
      modify ({ · with formElement := some id })
      pop
    return .done
  else return .fostered

def stepInTable (token : Token) : Build Outcome := do
  match token with
  | .character _ =>
    if (← get).currentIs (["table", "template", "tr"] ++ sectionNames) then
      modify fun builder => { builder with
        pendingTableText := [], originalMode := builder.mode, mode := .inTableText }
      return .again
    else return .fostered
  | .doctype _ => return .done
  | .opening tag => openInTable tag
  | .closing name =>
    if name = "table" then
      if (← get).inTableScope ["table"] then closeTable
      return .done
    else if (["body", "html"] ++ tablePartNames).contains name then return .done
    else if name = "template" then return .by .inHead
    else return .fostered
  | .finish => return .by .inBody

/-- Collects the characters between tags. -/
def stepInTableText (token : Token) : Build Outcome := do
  match token with
  | .character value =>
    if value != '\x00' then
      modify fun builder =>
        { builder with pendingTableText := builder.pendingTableText ++ [value] }
    return .done
  | _ =>
    let builder ← get
    set { builder with pendingTableText := [], mode := builder.originalMode }
    return .flushing builder.pendingTableText

def closeCaption : Build Bool := do
  if (← get).inTableScope ["caption"] then
    closeImplied impliedEndNames
    popThrough ["caption"]
    clearToMarker
    setMode .inTable
    return true
  else return false

def stepInCaption (token : Token) : Build Outcome := do
  match token with
  | .opening tag =>
    if tablePartNames.contains tag.name then
      return if ← closeCaption then .again else .done
    else return .by .inBody
  | .closing name =>
    if name = "caption" then
      let _ ← closeCaption
      return .done
    else if name = "table" then return if ← closeCaption then .again else .done
    else if (["body", "html"] ++ tablePartNames).contains name then return .done
    else return .by .inBody
  | _ => return .by .inBody

def stepInColumnGroup (token : Token) : Build Outcome := do
  let otherwise : Build Outcome := do
    if (← get).currentIs ["colgroup"] then
      pop
      setMode .inTable
      return .again
    else return .done
  match token with
  | .character value =>
    if isHtmlSpace value then
      insertCharacter value
      return .done
    else otherwise
  | .doctype _ => return .done
  | .opening tag =>
    if tag.name = "html" then return .by .inBody
    else if tag.name = "col" then
      insertVoid tag
      return .done
    else if tag.name = "template" then return .by .inHead
    else otherwise
  | .closing name =>
    if name = "colgroup" then
      if (← get).currentIs ["colgroup"] then
        pop
        setMode .inTable
      return .done
    else if name = "col" then return .done
    else if name = "template" then return .by .inHead
    else otherwise
  | .finish => return .by .inBody

/-- Leaves a section of a table, if there is one. -/
def leaveSection : Build Outcome := do
  if (← get).inTableScope sectionNames then
    backToSection
    pop
    setMode .inTable
    return .again
  else return .done

def stepInTableBody (token : Token) : Build Outcome := do
  match token with
  | .opening tag =>
    if tag.name = "tr" then
      backToSection
      insertElement tag
      setMode .inRow
      return .done
    else if cellNames.contains tag.name then
      backToSection
      insertElement (.plain "tr")
      setMode .inRow
      return .again
    else if (["caption", "col", "colgroup"] ++ sectionNames).contains tag.name then leaveSection
    else return .by .inTable
  | .closing name =>
    if sectionNames.contains name then
      if (← get).inTableScope [name] then
        backToSection
        pop
        setMode .inTable
      return .done
    else if name = "table" then leaveSection
    else if ["body", "caption", "col", "colgroup", "html", "td", "th", "tr"].contains name then
      return .done
    else return .by .inTable
  | _ => return .by .inTable

/-- Leaves a row, if there is one. -/
def leaveRow : Build Bool := do
  if (← get).inTableScope ["tr"] then
    backToRow
    pop
    setMode .inTableBody
    return true
  else return false

def stepInRow (token : Token) : Build Outcome := do
  match token with
  | .opening tag =>
    if cellNames.contains tag.name then
      backToRow
      insertElement tag
      setMode .inCell
      pushMarker
      return .done
    else if tablePartNames.contains tag.name then return if ← leaveRow then .again else .done
    else return .by .inTable
  | .closing name =>
    if name = "tr" then
      let _ ← leaveRow
      return .done
    else if name = "table" then return if ← leaveRow then .again else .done
    else if sectionNames.contains name then
      if (← get).inTableScope [name] then return if ← leaveRow then .again else .done
      else return .done
    else if ["body", "caption", "col", "colgroup", "html", "td", "th"].contains name then
      return .done
    else return .by .inTable
  | _ => return .by .inTable

def closeCell : Build Unit := do
  closeImplied impliedEndNames
  popThrough cellNames
  clearToMarker
  setMode .inRow

def stepInCell (token : Token) : Build Outcome := do
  match token with
  | .opening tag =>
    if tablePartNames.contains tag.name then
      if (← get).inTableScope cellNames then
        closeCell
        return .again
      else return .done
    else return .by .inBody
  | .closing name =>
    if cellNames.contains name then
      if (← get).inTableScope [name] then
        closeImplied impliedEndNames
        popThrough [name]
        clearToMarker
        setMode .inRow
      return .done
    else if ["body", "caption", "col", "colgroup", "html"].contains name then return .done
    else if (["table", "tr"] ++ sectionNames).contains name then
      if (← get).inTableScope [name] then
        closeCell
        return .again
      else return .done
    else return .by .inBody
  | _ => return .by .inBody

def leaveSelect : Build Unit := do
  popThrough ["select"]
  resetMode

def closeOptions (names : List String) : Build Unit := do
  for name in names do
    if (← get).currentIs [name] then pop

def stepInSelect (token : Token) : Build Outcome := do
  match token with
  | .character value =>
    if value != '\x00' then insertCharacter value
    return .done
  | .doctype _ => return .done
  | .opening tag =>
    let name := tag.name
    if name = "html" then return .by .inBody
    else if name = "option" then
      closeOptions ["option"]
      insertElement tag
      return .done
    else if name = "optgroup" then
      closeOptions ["option", "optgroup"]
      insertElement tag
      return .done
    else if name = "hr" then
      closeOptions ["option", "optgroup"]
      insertVoid tag
      return .done
    else if name = "select" then
      if (← get).inSelectScope "select" then leaveSelect
      return .done
    else if ["input", "keygen", "textarea"].contains name then
      if (← get).inSelectScope "select" then
        leaveSelect
        return .again
      else return .done
    else if name = "script" || name = "template" then return .by .inHead
    else return .done
  | .closing name =>
    if name = "optgroup" then
      let builder ← get
      if builder.currentIs ["option"] &&
          (builder.openElements.drop 1).head?.any (builder.isOneOf ["optgroup"]) then pop
      closeOptions ["optgroup"]
      return .done
    else if name = "option" then
      closeOptions ["option"]
      return .done
    else if name = "select" then
      if (← get).inSelectScope "select" then leaveSelect
      return .done
    else if name = "template" then return .by .inHead
    else return .done
  | .finish => return .by .inBody

def stepInSelectInTable (token : Token) : Build Outcome := do
  let tableNames := ["caption", "table", "tr"] ++ sectionNames ++ cellNames
  match token with
  | .opening tag =>
    if tableNames.contains tag.name then
      leaveSelect
      return .again
    else return .by .inSelect
  | .closing name =>
    if tableNames.contains name then
      if (← get).inTableScope [name] then
        leaveSelect
        return .again
      else return .done
    else return .by .inSelect
  | _ => return .by .inSelect

end ClusterRest.Html
