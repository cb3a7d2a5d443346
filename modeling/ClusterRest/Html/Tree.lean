import ClusterRest.Html.Token

/-! Documents as stores of nodes, numbered in the order of their creation. -/

namespace ClusterRest.Html

inductive Space where
  | html
  | svg
  | mathml
  deriving DecidableEq, Repr, Inhabited

structure Element where
  space : Space
  name : String
  attributes : List (String × String)
  deriving DecidableEq, Repr, Inhabited

inductive Content where
  | document
  | element (value : Element)
  | text (characters : String)
  deriving Repr, Inhabited

abbrev NodeId := Nat

structure Node where
  parent : Option NodeId
  children : List NodeId
  content : Content
  deriving Repr, Inhabited

structure Tree where
  nodes : Array Node
  deriving Inhabited

namespace Tree

def root : NodeId := 0

def empty : Tree := ⟨#[⟨none, [], .document⟩]⟩

def element? (tree : Tree) (id : NodeId) : Option Element :=
  match tree.nodes[id]? with
  | some ⟨_, _, .element element⟩ => some element
  | _ => none

def parent? (tree : Tree) (id : NodeId) : Option NodeId := tree.nodes[id]?.bind (·.parent)

def children (tree : Tree) (id : NodeId) : List NodeId :=
  (tree.nodes[id]?.map (·.children)).getD []

def update (tree : Tree) (id : NodeId) (change : Node → Node) : Tree :=
  ⟨tree.nodes.modify id change⟩

/-- Adds a node that stands nowhere yet. -/
def create (tree : Tree) (content : Content) : NodeId × Tree :=
  (tree.nodes.size, ⟨tree.nodes.push ⟨none, [], content⟩⟩)

/-- Takes a node out of its parent. -/
def detach (tree : Tree) (id : NodeId) : Tree :=
  match tree.parent? id with
  | none => tree
  | some parent =>
    let released := tree.update parent fun node =>
      { node with children := node.children.filter (· != id) }
    released.update id ({ · with parent := none })

def append (tree : Tree) (parent id : NodeId) : Tree :=
  let tree := (tree.detach id).update parent fun node =>
    { node with children := node.children ++ [id] }
  tree.update id ({ · with parent := some parent })

def insertIn (sibling id : NodeId) : List NodeId → List NodeId
  | [] => [id]
  | next :: rest => if next = sibling then id :: next :: rest else next :: insertIn sibling id rest

/-- Puts a node in front of a sibling. -/
def insertBefore (tree : Tree) (sibling id : NodeId) : Tree :=
  match tree.parent? sibling with
  | none => tree
  | some parent =>
    let tree := (tree.detach id).update parent fun node =>
      { node with children := insertIn sibling id node.children }
    tree.update id ({ · with parent := some parent })

/-- Where a node goes: to the end of a parent, or in front of a sibling. -/
inductive Place where
  | inside (parent : NodeId)
  | before (sibling : NodeId)
  deriving Repr

def insertAt (tree : Tree) (place : Place) (id : NodeId) : Tree :=
  match place with
  | .inside parent => tree.append parent id
  | .before sibling => tree.insertBefore sibling id

def nodeBefore? (sibling : NodeId) : List NodeId → Option NodeId
  | first :: second :: rest => if second = sibling then some first else nodeBefore? sibling (second :: rest)
  | _ => none

/-- The node after which a place lies. -/
def neighbour? (tree : Tree) : Place → Option NodeId
  | .inside parent => (tree.children parent).getLast?
  | .before sibling => (tree.parent? sibling).bind fun parent =>
      nodeBefore? sibling (tree.children parent)

/-- Adds a character to the text at a place. -/
def insertCharacter (tree : Tree) (place : Place) (character : Char) : Tree :=
  let extended? := (tree.neighbour? place).bind fun id =>
    match tree.nodes[id]? with
    | some ⟨_, _, .text characters⟩ => some (id, characters)
    | _ => none
  match extended? with
  | some (id, characters) =>
    tree.update id ({ · with content := .text (characters.push character) })
  | none =>
    let (id, tree) := tree.create (.text (String.singleton character))
    tree.insertAt place id

def moveChildren (tree : Tree) (source target : NodeId) : Tree :=
  (tree.children source).foldl (fun tree id => tree.append target id) tree

/-- The text of a node and of all below it; `fuel` bounds the depth. -/
def textWithin (tree : Tree) : (fuel : Nat) → NodeId → String
  | 0, _ => ""
  | fuel + 1, id =>
    match tree.nodes[id]? with
    | none => ""
    | some node =>
      let own := match node.content with
        | .text characters => characters
        | _ => ""
      own ++ String.join (node.children.map (tree.textWithin fuel))

def textOf (tree : Tree) (id : NodeId) : String := tree.textWithin tree.nodes.size id

/-- The first element of a name that was created and has a place. -/
def firstNamed? (tree : Tree) (name : String) : Option NodeId :=
  (List.range tree.nodes.size).find? fun id =>
    (tree.parent? id).isSome && (tree.element? id).any (·.name = name)

end Tree

end ClusterRest.Html
