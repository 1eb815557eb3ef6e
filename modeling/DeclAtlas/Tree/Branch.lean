import DeclAtlas.Tree.Basic

/-!
# Branches

A branch is a node with everything below it, as a value that can be recursed on.  Whatever walks
over a tree (orders, outlines, selections, pages, rows of a browser) walks over a branch of it.
-/

namespace DeclAtlas

/-- A node with the branches below it. -/
inductive Branch where
  | node (id : NodeId) (label : Text) (element : Option Element) (children : List Branch)
  deriving Repr

namespace Branch

/-- The number of the top node. -/
def id : Branch → NodeId
  | node id _ _ _ => id

/-- The label of the top node. -/
def label : Branch → Text
  | node _ label _ _ => label

/-- The declaration of the top node. -/
def element : Branch → Option Element
  | node _ _ element _ => element

/-- The branches below the top node. -/
def children : Branch → List Branch
  | node _ _ _ children => children

mutual

/-- The nodes of a branch, each before the nodes below it. -/
def ids : Branch → List NodeId
  | node id _ _ children => id :: idsOfAll children

/-- The nodes of several branches, one branch after the other. -/
def idsOfAll : List Branch → List NodeId
  | [] => []
  | branch :: branches => branch.ids ++ idsOfAll branches

end

end Branch

namespace Tree

/-- The branch at a node, cut off `levels` levels below it. -/
def branchTo (tree : Tree) : (levels : Nat) → NodeId → Branch
  | 0, id => .node id (tree.label id) (tree.element? id) []
  | levels + 1, id =>
    .node id (tree.label id) (tree.element? id) ((tree.children id).map (tree.branchTo levels))

/-- The branch at a node.  No branch has more levels than the tree has nodes. -/
def branch (tree : Tree) (id : NodeId) : Branch :=
  tree.branchTo tree.size id

/-- The node and all nodes below it, each before the nodes below it. -/
def descendants (tree : Tree) (id : NodeId) : List NodeId :=
  (tree.branch id).ids

end Tree

end DeclAtlas
