import ClusterRest.Toml.Value

/-! A TOML document while it is read, and the rules on what may be added to it. -/

namespace ClusterRest.Toml

/-- What a name stands for: a value, which is closed; a table, given by its own header or implied by
longer names, perhaps by dotted ones; or a list of tables given by headers. -/
inductive Node where
  | value (value : Value)
  | table (isImplied isDotted : Bool) (members : List (String × Node))
  | tables (elements : List (List (String × Node)))
  deriving Inhabited

abbrev Nodes := List (String × Node)

namespace Nodes

def find? (name : String) : Nodes → Option Node
  | [] => none
  | (other, node) :: rest => if other = name then some node else find? name rest

/-- Puts a node in the place of that of a name, or at the end. -/
def set (name : String) (node : Node) : Nodes → Nodes
  | [] => [(name, node)]
  | (other, present) :: rest =>
    if other = name then (other, node) :: rest else (other, present) :: set name node rest

/-- Adds a value under a dotted name. It may not reopen a table that has a header, nor write over
anything. -/
def addDotted (name : String) (node : Node) : List String → Nodes → Option Nodes
  | [], nodes => if (nodes.find? name).isSome then none else some (nodes.set name node)
  | step :: path, nodes =>
    match nodes.find? step with
    | none => do return nodes.set step (.table true true (← addDotted name node path []))
    | some (.table true isDotted members) => do
      if path.isEmpty && !isDotted then none
      return nodes.set step (.table true isDotted (← addDotted name node path members))
    | _ => none

/-- The node that a header names, if there is one; `none` where no table can be. -/
def locate? : List String → Nodes → Option (Option Node)
  | [], _ => none
  | [name], nodes => some (nodes.find? name)
  | step :: path, nodes =>
    match nodes.find? step with
    | none => some none
    | some (.value _) => none
    | some (.table _ _ members) => locate? path members
    | some (.tables elements) => locate? path (elements.getLast?.getD [])

/-- Puts a table where a header names it; as an element it goes to the end of a list. -/
def place (isElement : Bool) (members : Nodes) : List String → Nodes → Option Nodes
  | [], _ => none
  | [name], nodes =>
    if isElement then
      match nodes.find? name with
      | none => some (nodes.set name (.tables [members]))
      | some (.tables elements) => some (nodes.set name (.tables (elements ++ [members])))
      | _ => none
    else some (nodes.set name (.table false false members))
  | step :: path, nodes =>
    match nodes.find? step with
    | none => do return nodes.set step (.table true false (← place isElement members path []))
    | some (.value _) => none
    | some (.table isImplied isDotted inner) => do
      return nodes.set step (.table isImplied isDotted (← place isElement members path inner))
    | some (.tables elements) => do
      let last ← place isElement members path (elements.getLast?.getD [])
      return nodes.set step (.tables (elements.dropLast ++ [last]))

end Nodes

mutual

def Node.toValue : Node → Value
  | .value value => value
  | .table _ _ members => .table (membersOf members)
  | .tables elements => .list (elementsOf elements)

def membersOf : List (String × Node) → Members
  | [] => []
  | (name, node) :: rest => (name, node.toValue) :: membersOf rest

def elementsOf : List (List (String × Node)) → List Value
  | [] => []
  | members :: rest => .table (membersOf members) :: elementsOf rest

end

/-- The tables that are finished, and the one that is being read. -/
structure Draft where
  root : Nodes
  path : List String
  isElement : Bool
  current : Nodes

namespace Draft

def empty : Draft := ⟨[], [], false, []⟩

def add (draft : Draft) (path : List String) (name : String) (value : Value) : Option Draft := do
  return { draft with current := ← Nodes.addDotted name (.value value) path draft.current }

/-- All tables, the present one among them. -/
def finish (draft : Draft) : Option Nodes :=
  if draft.path.isEmpty then some draft.current
  else Nodes.place draft.isElement draft.current draft.path draft.root

/-- Goes on with a table of its own header; only an implied one may be there already. -/
def openTable (draft : Draft) (path : List String) : Option Draft := do
  let root ← draft.finish
  match ← Nodes.locate? path root with
  | none => return ⟨root, path, false, []⟩
  | some (.table true false members) => return ⟨root, path, false, members⟩
  | some _ => none

/-- Goes on with a new element of a list of tables. -/
def openElement (draft : Draft) (path : List String) : Option Draft := do
  let root ← draft.finish
  match ← Nodes.locate? path root with
  | none => return ⟨root, path, true, []⟩
  | some (.tables _) => return ⟨root, path, true, []⟩
  | some _ => none

end Draft

end ClusterRest.Toml
