import DeclAtlas.Tree.Branch

/-!
# Rows

The browser shows a tree as rows: a node each, without the root, a node only if all nodes above it
are expanded.  A row stands before the rows of the nodes below it.
-/

namespace DeclAtlas

/-- A row of the browser. -/
structure Row where
  /-- The node that the row shows. -/
  node : NodeId
  /-- How many nodes other than the root are above it. -/
  depth : Nat
  /-- Whether there are nodes below it. -/
  hasChildren : Bool
  /-- Whether the nodes below it are shown. -/
  isExpanded : Bool
  deriving DecidableEq, Repr

namespace Branch

mutual

/-- The rows of a branch at a depth. -/
def rows (expanded : List NodeId) (depth : Nat) : Branch → List Row
  | node id _ _ children =>
    let isExpanded := expanded.contains id
    { node := id, depth, hasChildren := !children.isEmpty, isExpanded } ::
      (if isExpanded then rowsOfAll expanded (depth + 1) children else [])

/-- The rows of several branches, one branch after the other. -/
def rowsOfAll (expanded : List NodeId) (depth : Nat) : List Branch → List Row
  | [] => []
  | branch :: branches => branch.rows expanded depth ++ rowsOfAll expanded depth branches

end

end Branch

/-- The rows of a tree of which some nodes are expanded. -/
def Tree.rows (tree : Tree) (expanded : List NodeId) : List Row :=
  Branch.rowsOfAll expanded 0 (tree.branch Tree.root).children

end DeclAtlas
