import DeclAtlas.Element.Basic

/-!
# The tree of declarations

All declarations of a project form one tree.  Its nodes are numbered in the order in which they
were added, the root being number 0, and a number once given stays valid: nodes are added below
others and never removed.  The root has a label and no element; every other node has one.
-/

namespace DeclAtlas

/-- The number of a node. -/
abbrev NodeId := Nat

/-- One node of a tree. -/
structure Node where
  /-- The text shown for the node. -/
  label : Text
  /-- The declaration, which only the root lacks. -/
  element : Option Element := none
  /-- The node above, which only the root lacks. -/
  parent : Option NodeId := none
  /-- The nodes below, in the order in which they were added. -/
  children : List NodeId := []
  deriving DecidableEq, Repr

/-- A tree of declarations. -/
structure Tree where
  /-- The nodes by number. -/
  nodes : Array Node
  deriving DecidableEq, Repr

namespace Tree

/-- The number of the root. -/
def root : NodeId := 0

/-- The tree that has only a root. -/
def ofLabel (label : Text) : Tree :=
  { nodes := #[{ label }] }

instance : Inhabited Tree := ⟨ofLabel []⟩

/-! ## Looking at nodes -/

/-- The number of nodes, the root included. -/
def size (tree : Tree) : Nat :=
  tree.nodes.size

/-- Whether there is no node but the root. -/
def isEmpty (tree : Tree) : Bool :=
  tree.size == 1

/-- The node with a number. -/
def node? (tree : Tree) (id : NodeId) : Option Node :=
  tree.nodes[id]?

/-- The label of a node. -/
def label (tree : Tree) (id : NodeId) : Text :=
  ((tree.node? id).map Node.label).getD []

/-- The declaration of a node. -/
def element? (tree : Tree) (id : NodeId) : Option Element :=
  (tree.node? id).bind Node.element

/-- The kind of a node's declaration. -/
def kind? (tree : Tree) (id : NodeId) : Option Kind :=
  (tree.element? id).map Element.kind

/-- The node above a node. -/
def parent? (tree : Tree) (id : NodeId) : Option NodeId :=
  (tree.node? id).bind Node.parent

/-- The nodes directly below a node. -/
def children (tree : Tree) (id : NodeId) : List NodeId :=
  ((tree.node? id).map Node.children).getD []

/-- The node that was added last below a node. -/
def lastChild? (tree : Tree) (id : NodeId) : Option NodeId :=
  (tree.children id).getLast?

/-- Whether the element of a node has the given name. -/
def isNamed (tree : Tree) (id : NodeId) (name : Text) : Bool :=
  (tree.element? id).any fun element => element.name == name

/-! ## Addressing nodes by name -/

/-- The first node directly below `parent` that declares the name. -/
def findChild? (tree : Tree) (parent : NodeId) (name : Text) : Option NodeId :=
  (tree.children parent).find? fun child => tree.isNamed child name

/-- The node reached from a node by following names downwards. -/
def follow? (tree : Tree) (start : NodeId) : List Text → Option NodeId
  | [] => some start
  | name :: names => do tree.follow? (← tree.findChild? start name) names

/-- The node reached from the root by following names downwards. -/
def findPath? (tree : Tree) (names : List Text) : Option NodeId :=
  tree.follow? root names

/-- The node and the nodes above it, from the node upwards, at most `bound` of them. -/
def lineageTo (tree : Tree) (bound : Nat) (id : NodeId) : List NodeId :=
  match bound with
  | 0 => []
  | bound + 1 =>
    id :: (match tree.parent? id with
      | none => []
      | some parent => tree.lineageTo bound parent)

/-- The node and all nodes above it, from the node up to the root. -/
def lineage (tree : Tree) (id : NodeId) : List NodeId :=
  tree.lineageTo tree.size id

/-- The names on the way from the root down to a node. -/
def path (tree : Tree) (id : NodeId) : List Text :=
  ((tree.lineage id).filterMap fun node => (tree.element? node).map Element.name).reverse

/-! ## Changing a tree -/

/-- Adds a node for a declaration as the last one below `parent`; the new node's number is the
size of the tree before. -/
def addChild (tree : Tree) (parent : NodeId) (element : Element) : Tree :=
  let id := tree.size
  let nodes := tree.nodes.modify parent fun node => { node with children := node.children ++ [id] }
  { nodes := nodes.push
      { label := element.displayName, element := some element, parent := some parent } }

/-- Changes the declaration of a node. -/
def modifyElement (tree : Tree) (id : NodeId) (change : Element → Element) : Tree :=
  { nodes := tree.nodes.modify id fun node => { node with element := node.element.map change } }

/-- Adds text to the documentation of a node. -/
def appendSummary (tree : Tree) (id : NodeId) (summary : Text) : Tree :=
  tree.modifyElement id fun element => { element with summary := element.summary ++ summary }

/-- Marks a node as exported or not. -/
def setExportable (tree : Tree) (id : NodeId) (exportable : Bool) : Tree :=
  tree.modifyElement id fun element => { element with exportable }

end Tree

end DeclAtlas
