import ClusterRest.Html.Builder

/-! End tags of formatting elements that overlap other elements. -/

namespace ClusterRest.Html

/-- Closes the innermost element of a name, unless a special element stands in the way. -/
def closeOrdinary (name : String) : Build Unit := modify fun builder =>
  let rec findTarget : List NodeId → Option NodeId
    | [] => none
    | id :: rest =>
      if builder.isOneOf [name] id then some id
      else if isSpecial (builder.elementOf id) then none
      else findTarget rest
  match findTarget builder.openElements with
  | none => builder
  | some target =>
    let kept := builder.openElements.dropWhile (builder.isOneOf (impliedEndNames.erase name))
    { builder with openElements := (kept.dropWhile (· != target)).drop 1 }

/-- Where the new formatting element goes in the list of them. -/
inductive Bookmark where
  | inPlace
  | after (id : NodeId)

def removeEntry (id : NodeId) (entries : List FormatEntry) : List FormatEntry :=
  entries.filter (!·.isFor id)

def insertAfterEntry (mark : NodeId) (entry : FormatEntry) : List FormatEntry → List FormatEntry
  | [] => [entry]
  | next :: rest =>
    if next.isFor mark then entry :: next :: rest else next :: insertAfterEntry mark entry rest

def replaceOpen (old new : NodeId) (elements : List NodeId) : List NodeId :=
  elements.map fun id => if id = old then new else id

def insertBelow (outer new : NodeId) : List NodeId → List NodeId
  | [] => [new]
  | id :: rest => if id = outer then new :: id :: rest else id :: insertBelow outer new rest

/-- A block of elements on its way out of a formatting element. -/
structure Lifting where
  last : NodeId
  bookmark : Bookmark

/-- Rebuilds the elements between the block and the formatting element, from the inside outwards.
Only the innermost three stay in the list of formatting elements. -/
def rebuildBetween (block : NodeId) : List NodeId → (count : Nat) → Lifting → Build Lifting
  | [], _, lifting => pure lifting
  | id :: outer, count, lifting => do
    let builder ← get
    if count > 3 then
      set { builder with formatting := removeEntry id builder.formatting }
    let entry? := (← get).formatting.find? (·.isFor id)
    match entry? with
    | some (.element _ tag) =>
      let copy ← createElement .html tag
      modify fun builder => { builder with
        openElements := replaceOpen id copy builder.openElements
        formatting := builder.formatting.map fun entry =>
          if entry.isFor id then .element copy tag else entry
        tree := builder.tree.append copy lifting.last }
      let bookmark := if lifting.last = block then .after copy else lifting.bookmark
      rebuildBetween block outer (count + 1) ⟨copy, bookmark⟩
    | _ =>
      modify fun builder => { builder with openElements := builder.openElements.erase id }
      rebuildBetween block outer (count + 1) lifting

/-- One round for a formatting element; `false` when nothing is left to do. -/
def adoptOnce (name : String) : Build Bool := do
  let builder ← get
  let found? := (sinceMarker builder.formatting).findSome? fun entry => match entry with
    | .element id tag => if tag.name = name then some (id, tag) else none
    | .marker => none
  match found? with
  | none =>
    closeOrdinary name
    return false
  | some (formatted, tag) =>
    if !builder.openElements.contains formatted then
      set { builder with formatting := removeEntry formatted builder.formatting }
      return false
    else if !builder.idInScope formatted builder.openElements then return false
    else
      let inner := builder.openElements.takeWhile (· != formatted)
      let outer := (builder.openElements.drop inner.length).drop 1
      match (inner.reverse.find? fun id => isSpecial (builder.elementOf id)) with
      | none =>
        set { builder with
          openElements := outer, formatting := removeEntry formatted builder.formatting }
        return false
      | some block =>
        let ancestor := outer.head?.getD Tree.root
        let between := (inner.dropWhile (· != block)).drop 1
        let lifting ← rebuildBetween block between 1 ⟨block, .inPlace⟩
        modify fun builder =>
          let tree := builder.tree.detach lifting.last
          { builder with tree := tree.insertAt (builder.place ancestor) lifting.last }
        let copy ← createElement .html tag
        modify fun builder =>
          let tree := (builder.tree.moveChildren block copy).append block copy
          let formatting := match lifting.bookmark with
            | .inPlace => builder.formatting.map fun entry =>
                if entry.isFor formatted then .element copy tag else entry
            | .after mark =>
              removeEntry formatted (insertAfterEntry mark (.element copy tag) builder.formatting)
          let openElements := insertBelow block copy (builder.openElements.erase formatted)
          { builder with tree, formatting, openElements }
        return true

def adoptRounds (name : String) : Nat → Build Unit
  | 0 => pure ()
  | rounds + 1 => do
    if ← adoptOnce name then adoptRounds name rounds

/-- Closes a formatting element; what overlaps it is split. -/
def closeFormatting (name : String) : Build Unit := do
  let builder ← get
  let isPlain := builder.currentIs [name] &&
    builder.current?.any fun id => !builder.formatting.any (·.isFor id)
  if isPlain then pop else adoptRounds name 8

end ClusterRest.Html
