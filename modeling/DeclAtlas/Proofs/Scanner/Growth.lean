import Mathlib
import DeclAtlas.Proofs.Header.Name
import DeclAtlas.Proofs.Scanner.Frame
import DeclAtlas.Proofs.Tree.WellFormed

/-!
# How trees grow

Trees grow by reading sources.  `Reached` holds of a tree that comes from reading any sources, one
after the other, below any nodes it had at the time, whether they have faults or not; `Marked`
allows for marks that were set afterwards.

**Theorem** (`Reached.nodes_fit`): the nodes of every such tree fit together, as `WellFormed` says,
and nothing in it is marked as exported.

What has to be known about the scanner for this is `Grounded`: its tree is well-formed and all nodes
it holds on to, those of open blocks too, are nodes of the tree.  One character keeps it
(`Grounded.step`): by `dispatch_cases` only a boundary needs a look, and a boundary changes the tree
only by a declaration that a header makes.
-/

namespace DeclAtlas

/-- Trees that come from reading sources. -/
inductive Tree.Reached : Tree → Prop
  /-- A tree that has only a root. -/
  | ofLabel (label : Text) : Reached (.ofLabel label)
  /-- A tree after reading a source below one of its nodes. -/
  | read {tree : Tree} (reached : Reached tree) (base : NodeId) (hbase : base < tree.size)
      (symbols : Symbols) (t : Text) : Reached (tree.read base symbols t).tree

/-- Trees that come from reading sources, with any marks since. -/
inductive Tree.Marked : Tree → Prop
  /-- A tree without marks. -/
  | reached {tree : Tree} (reached : Reached tree) : Marked tree
  /-- A tree in which a node has been marked, or its mark removed. -/
  | mark {tree : Tree} (marked : Marked tree) (id : NodeId) (flag : Bool) :
      Marked (tree.setExportable id flag)

namespace Scanner

/-- The tree is in order, and declarations go below nodes that it has. -/
structure Grounded (s : Scanner) : Prop where
  /-- The tree is well-formed. -/
  wellFormed : s.tree.WellFormed
  /-- Nothing in it is marked as exported. -/
  unmarked : s.tree.Unmarked
  /-- The node that receives declarations outside all blocks. -/
  base : s.base < s.tree.size
  /-- The nodes of the open blocks. -/
  scopes : ∀ scope ∈ s.scopes, scope.node < s.tree.size

/-- Only tree, base and scopes matter for whether a scanner is grounded. -/
theorem Grounded.congr {s t : Scanner} (h : s.Grounded) (htree : t.tree = s.tree)
    (hbase : t.base = s.base) (hscopes : t.scopes = s.scopes) : t.Grounded where
  wellFormed := htree ▸ h.wellFormed
  unmarked := htree ▸ h.unmarked
  base := by
    rw [hbase, htree]
    exact h.base
  scopes := by
    rw [hscopes, htree]
    exact h.scopes

/-- A state of the same structure is grounded as well. -/
theorem Grounded.of_sameStructure {s t : Scanner} (h : s.Grounded) (hst : SameStructure s t) :
    t.Grounded :=
  h.congr hst.tree hst.base hst.scopes

/-- The current node of a grounded scanner is a node of the tree. -/
theorem Grounded.current_lt {s : Scanner} (h : s.Grounded) : s.current < s.tree.size := by
  unfold current
  split
  · exact h.base
  · rename_i scope outer heq
    exact h.scopes scope (heq ▸ List.mem_cons_self)

/-- Taking in a header declares at most one element, below the current node. -/
theorem Grounded.take {s : Scanner} (h : s.Grounded) (boundary : Boundary) (header : Header)
    (hfresh : ∀ element opensBody, header = .declaration element opensBody →
      Header.Fresh element) :
    (s.take boundary header).1.Grounded ∧
      (s.take boundary header).2 < (s.take boundary header).1.tree.size := by
  cases header with
  | importing => exact ⟨h, h.current_lt⟩
  | initializer => exact ⟨h.congr rfl rfl rfl, h.current_lt⟩
  | nothing => exact ⟨h.congr rfl rfl rfl, h.current_lt⟩
  | declaration element opensBody =>
      obtain ⟨hproper, -, hunmarked⟩ := hfresh element opensBody rfl
      have hcurrent : s.current < s.tree.size := h.current_lt
      let inherits := element.type.isAbsent && boundary != .opening
      let documented : Element := { element with summary := s.summary }
      have hsize : s.tree.size ≤ (s.tree.declare s.current inherits documented).1.size :=
        Tree.size_le_declare inherits
      have hnode : (s.tree.declare s.current inherits documented).2 <
          (s.tree.declare s.current inherits documented).1.size :=
        Tree.declare_lt_size inherits h.wellFormed
      refine ⟨⟨?_, ?_, ?_, ?_⟩, hnode⟩
      · exact h.wellFormed.declare inherits hcurrent hproper.spaced
      · exact h.unmarked.declare inherits hunmarked
      · exact Nat.lt_of_lt_of_le h.base hsize
      · intro scope hscope
        exact Nat.lt_of_lt_of_le (h.scopes scope hscope) hsize

/-- Entering a node of the tree and leaving scopes keeps a scanner grounded. -/
theorem Grounded.moveScope {s : Scanner} (h : s.Grounded) (boundary : Boundary) {node : NodeId}
    (hnode : node < s.tree.size) (openedAt : Nat) :
    (s.moveScope boundary node openedAt).Grounded := by
  cases boundary with
  | opening =>
      refine ⟨h.wellFormed, h.unmarked, h.base, ?_⟩
      intro scope hscope
      rcases List.mem_cons.1 hscope with rfl | hscope
      · exact hnode
      · exact h.scopes scope hscope
  | closing =>
      exact ⟨h.wellFormed, h.unmarked, h.base,
        fun scope hscope => h.scopes scope (List.mem_of_mem_tail hscope)⟩
  | comma => exact h
  | semicolon => exact h

/-- Reading a header keeps a scanner grounded. -/
theorem Grounded.readHeader {s : Scanner} (h : s.Grounded) (boundary : Boundary) :
    (s.readHeader boundary).Grounded := by
  have hspan : (s.startSpan (s.offset + 1)).Grounded := h.congr rfl rfl rfl
  obtain ⟨htaken, hnode⟩ := hspan.take boundary (Header.read (s.context boundary) s.header)
    fun _ _ heq => Header.fresh_of_read heq
  exact htaken.moveScope boundary hnode s.offset

/-- A boundary keeps a scanner grounded. -/
theorem Grounded.boundary {s : Scanner} (h : s.Grounded) (boundary : Boundary) :
    (s.boundary boundary).Grounded := by
  unfold Scanner.boundary
  split
  · exact h
  · extract_lets counted
    have hcounted : counted.Grounded := h.congr rfl rfl rfl
    split
    · exact hcounted.readHeader boundary
    · split
      · exact ⟨h.wellFormed, h.unmarked, h.base,
          fun scope hscope => h.scopes scope (List.mem_of_mem_tail hscope)⟩
      · exact hcounted

/-- One character keeps the tree in order. -/
theorem Grounded.step {s : Scanner} (h : s.Grounded) (c : Char) : (s.step c).Grounded := by
  refine Grounded.of_sameStructure ?_ (sameStructure_keep (s.dispatch c) c)
  rcases dispatch_cases s c with ⟨b, heq⟩ | hsame
  · rw [heq]
    exact (h.of_sameStructure (sameStructure_mode s .plain)).boundary b
  · exact h.of_sameStructure hsame

/-- A scanner starts grounded in a well-formed tree without marks. -/
theorem grounded_start {tree : Tree} (h : tree.WellFormed) (hunmarked : tree.Unmarked)
    {base : NodeId} (hbase : base < tree.size) (symbols : Symbols) :
    (start tree base symbols).Grounded :=
  ⟨h, hunmarked, hbase, fun _ hscope => absurd hscope List.not_mem_nil⟩

/-- A whole source keeps the tree in order. -/
theorem Grounded.scan {s : Scanner} (h : s.Grounded) (t : Text) : (s.scan t).Grounded :=
  scan_induction (fun _ c hs => hs.step c) h t

end Scanner

namespace Tree

/-- Reading a source keeps a tree in order, whether the source has a fault or not. -/
theorem WellFormed.read {tree : Tree} (h : tree.WellFormed) (hunmarked : tree.Unmarked)
    {base : NodeId} (hbase : base < tree.size) (symbols : Symbols) (t : Text) :
    (tree.read base symbols t).tree.WellFormed ∧ (tree.read base symbols t).tree.Unmarked := by
  have hstart := Scanner.grounded_start h hunmarked hbase symbols
  have hend := (hstart.scan t).of_sameStructure (Scanner.sameStructure_endOfSource _)
  exact ⟨hend.wellFormed, hend.unmarked⟩

/-- Every tree that comes from reading sources is in order. -/
theorem Reached.wellFormed_and_unmarked {tree : Tree} (h : tree.Reached) :
    tree.WellFormed ∧ tree.Unmarked := by
  induction h with
  | ofLabel label => exact ⟨wellFormed_ofLabel label, unmarked_ofLabel label⟩
  | read reached base hbase symbols t ih => exact ih.1.read ih.2 hbase symbols t

/-- Marks leave a tree in order. -/
theorem Marked.wellFormed {tree : Tree} (h : tree.Marked) : tree.WellFormed := by
  induction h with
  | reached reached => exact reached.wellFormed_and_unmarked.1
  | mark _ id flag ih => exact ih.modifyElement id fun _ => rfl

/-- **The nodes of a tree fit together**, whatever was read into it.  The root declares nothing and
has nothing above it.  Every other node declares something, is younger than the node above it, is
listed exactly once, below that node, shows its display name and is not marked as exported.
The nodes below a node are listed in the order of their numbers and have different names. -/
theorem Reached.nodes_fit {tree : Tree} (h : tree.Reached) :
    tree.element? root = none ∧ tree.parent? root = none ∧
      (∀ id : Nat, 0 < id → id < tree.size →
        ∃ element above, tree.element? id = some element ∧ tree.parent? id = some above ∧
          above < id ∧
          (∀ other, (tree.children other).count id = if other = above then 1 else 0) ∧
          DisplayName.ofName? element.name = some (tree.label id) ∧
          element.exportable = false) ∧
      ∀ id : Nat, (∀ child ∈ tree.children id, 0 < child ∧ child < tree.size) ∧
        (tree.children id).Pairwise (· < ·) ∧
        (tree.children id).Pairwise fun a b => tree.name? a ≠ tree.name? b := by
  obtain ⟨hwf, hunmarked⟩ := h.wellFormed_and_unmarked
  refine ⟨hwf.root_element, hwf.root_parent, ?_, ?_⟩
  · intro id hpos hlt
    obtain ⟨element, helement⟩ := Option.isSome_iff_exists.1 (hwf.element id hpos hlt)
    obtain ⟨above, habove, hparent⟩ := hwf.parent id hpos hlt
    refine ⟨element, above, helement, hparent, habove, ?_, hwf.label id element helement,
      hunmarked id element helement⟩
    intro other
    rw [hwf.count id other hpos hlt, hparent]
    by_cases hother : other = above
    · rw [if_pos hother, if_pos (hother ▸ rfl)]
    · rw [if_neg hother, if_neg fun heq => hother (Option.some.inj heq).symm]
  · intro id
    exact ⟨hwf.child id, hwf.sorted id, hwf.names id⟩

/-- The tree after a source with a block that is never closed, and a second source below the node
that the block declares. -/
def afterTwoSources : Tree :=
  (((ofLabel "Test").read root {}
    "class A \x7b int M(int x, string y) \x7b \x7d int a, b;").tree.read 1 {}
    "int a; int c = 2;").tree

/-- The field that the second source adds to the class of the first one fits in. -/
theorem nodes_fit_afterTwoSources :
    afterTwoSources.children 1 = [2, 3, 4, 5] ∧
      ∃ element above, afterTwoSources.element? 5 = some element ∧
        afterTwoSources.parent? 5 = some above ∧ above < 5 ∧
        (∀ other, (afterTwoSources.children other).count 5 = if other = above then 1 else 0) ∧
        DisplayName.ofName? element.name = some (afterTwoSources.label 5) ∧
        element.exportable = false := by
  have hreached : afterTwoSources.Reached :=
    ((Reached.ofLabel _).read root (by decide) _ _).read 1 (by decide +kernel) _ _
  refine ⟨by decide +kernel, ?_⟩
  exact hreached.nodes_fit.2.2.1 5 (by decide) (by decide +kernel)

end Tree

end DeclAtlas
