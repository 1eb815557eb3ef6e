import Mathlib
import DeclAtlas.Proofs.Scanner.Frame
import DeclAtlas.Proofs.Tree.Extension

/-!
# Reading as a stream

A source is read once from left to right, and what has been declared is never taken back.

* **Theorem** (`Tree.extendedBy_read`): reading a source extends the tree, and reading a longer
  source extends what reading its beginning gives, wherever the source is cut and whether or not
  either text has a fault.

By `Scanner.dispatch_cases` only a boundary can change the tree, and a boundary changes it by one
declaration at most, so every character extends the tree (`Scanner.extendedBy_step`) and so does
every text (`Scanner.extendedBy_scan`).
-/

namespace DeclAtlas

namespace Scanner

/-- Texts are read one after the other. -/
theorem scan_append (s : Scanner) (t u : Text) : s.scan (t ++ u) = (s.scan t).scan u :=
  List.foldl_append

/-- Taking in a header extends the tree by one declaration or leaves it alone. -/
theorem extendedBy_take (s : Scanner) (boundary : Boundary) (header : Header) :
    s.tree.ExtendedBy (s.take boundary header).1.tree := by
  cases header with
  | importing => exact .refl s.tree
  | initializer => exact .refl s.tree
  | nothing => exact .refl s.tree
  | declaration element opensBody => exact s.tree.extendedBy_declare s.current _ _

/-- Entering and leaving scopes does not change the tree. -/
theorem tree_moveScope (s : Scanner) (boundary : Boundary) (node : NodeId) (openedAt : Nat) :
    (s.moveScope boundary node openedAt).tree = s.tree := by
  cases boundary <;> rfl

/-- Reading a header extends the tree. -/
theorem extendedBy_readHeader (s : Scanner) (boundary : Boundary) :
    s.tree.ExtendedBy (s.readHeader boundary).tree := by
  unfold readHeader
  extract_lets reading
  rw [tree_moveScope]
  exact (s.startSpan (s.offset + 1)).extendedBy_take boundary reading

/-- A boundary extends the tree. -/
theorem extendedBy_boundary (s : Scanner) (boundary : Boundary) :
    s.tree.ExtendedBy (s.boundary boundary).tree := by
  unfold Scanner.boundary
  split_ifs
  · exact .refl s.tree
  · extract_lets counted
    split
    · exact counted.extendedBy_readHeader boundary
    · split_ifs <;> exact .refl s.tree

/-- **One character** extends the tree. -/
theorem extendedBy_step (s : Scanner) (c : Char) : s.tree.ExtendedBy (s.step c).tree := by
  change s.tree.ExtendedBy (s.dispatch c).tree
  rcases dispatch_cases s c with ⟨b, heq⟩ | hsame
  · rw [heq]
    exact extendedBy_boundary { s with mode := .plain } b
  · rw [hsame.tree]
    exact .refl s.tree

/-- **A text** extends the tree. -/
theorem extendedBy_scan (s : Scanner) (t : Text) : s.tree.ExtendedBy (s.scan t).tree := by
  induction t generalizing s with
  | nil => exact .refl s.tree
  | cons c t ih => exact (s.extendedBy_step c).trans (ih (s.step c))

end Scanner

namespace Tree

variable (tree : Tree) (base : NodeId) (symbols : Symbols)

/-- The end of a source adds nothing to the tree. -/
theorem tree_read_eq_scan (t : Text) :
    (tree.read base symbols t).tree = ((Scanner.start tree base symbols).scan t).tree :=
  (Scanner.sameStructure_endOfSource _).tree

/-- **Reading only ever extends a tree, and does so as a stream.**  Whatever a source and its
continuation hold, faults included, the nodes that the source leads to are there with the same
numbers and the same declarations when the continuation has been read too; documentation may have
been added to them, and new nodes are listed behind their children. -/
theorem extendedBy_read (t u : Text) :
    tree.ExtendedBy (tree.read base symbols t).tree ∧
      (tree.read base symbols t).tree.ExtendedBy (tree.read base symbols (t ++ u)).tree := by
  rw [tree_read_eq_scan, tree_read_eq_scan, Scanner.scan_append]
  constructor
  · exact (Scanner.start tree base symbols).extendedBy_scan t
  · exact ((Scanner.start tree base symbols).scan t).extendedBy_scan u

end Tree

end DeclAtlas
