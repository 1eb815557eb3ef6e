import Mathlib
import DeclAtlas.Proofs.Scanner.Growth
import DeclAtlas.Proofs.Site.Selection

/-!
# Which marks a selection leaves

A selection below a node first removes all marks there and then walks down, leaving out what is not
exported and what stands in an enum or a struct that is not expanded.  Whether a node ends up marked
can be told from the way that leads down to it.

**Theorem** (`Tree.Reached.select_withMarks`): whatever was read into a tree and whatever was marked
before, a selection sets the mark of every node strictly below the chosen one to whether its way
down is open, and changes nothing else.  So earlier marks play no part below the chosen node, and a
second selection changes nothing.

The walk downwards and the way upwards meet in `WellFormed.mem_selectedBelow_iff`, by induction
along the lineage of a node.
-/

namespace DeclAtlas.Tree

/-! ## Trees with other marks -/

/-- The tree with other marks, and otherwise as it is. -/
def withMarks (tree : Tree) (marks : NodeId → Bool) : Tree :=
  { nodes := tree.nodes.mapIdx fun id node =>
      { node with
        element := node.element.map fun element => { element with exportable := marks id } } }

section withMarks

variable (tree : Tree) (marks : NodeId → Bool)

/-- Other marks change nothing about a node but its mark. -/
theorem node?_withMarks (id : NodeId) :
    (tree.withMarks marks).node? id =
      (tree.node? id).map fun node =>
        { node with
          element := node.element.map fun element => { element with exportable := marks id } } := by
  rw [node?, withMarks, Array.getElem?_mapIdx, node?]

/-- Other marks add and remove no nodes. -/
@[simp] theorem size_withMarks : (tree.withMarks marks).size = tree.size := by
  rw [size, withMarks, Array.size_mapIdx, size]

/-- Other marks change no label. -/
@[simp] theorem label_withMarks (id : NodeId) :
    (tree.withMarks marks).label id = tree.label id := by
  rw [label, node?_withMarks, Option.map_map, label]
  rfl

/-- Other marks change no parent. -/
@[simp] theorem parent?_withMarks (id : NodeId) :
    (tree.withMarks marks).parent? id = tree.parent? id := by
  rw [parent?, node?_withMarks, parent?]
  cases tree.node? id <;> rfl

/-- Other marks change no children. -/
@[simp] theorem children_withMarks (id : NodeId) :
    (tree.withMarks marks).children id = tree.children id := by
  rw [children, node?_withMarks, Option.map_map, children]
  rfl

/-- Other marks change nothing about an element but its mark. -/
theorem element?_withMarks (id : NodeId) :
    (tree.withMarks marks).element? id =
      (tree.element? id).map fun element => { element with exportable := marks id } := by
  rw [element?, node?_withMarks, element?]
  cases tree.node? id <;> rfl

/-- Other marks change no name. -/
@[simp] theorem name?_withMarks (id : NodeId) :
    (tree.withMarks marks).name? id = tree.name? id := by
  rw [name?, element?_withMarks, Option.map_map, name?]
  rfl

/-- Other marks change no kind. -/
@[simp] theorem kind?_withMarks (id : NodeId) :
    (tree.withMarks marks).kind? id = tree.kind? id := by
  rw [kind?, element?_withMarks, Option.map_map, kind?]
  rfl

/-- Other marks change no lineage. -/
@[simp] theorem lineage_withMarks (id : NodeId) :
    (tree.withMarks marks).lineage id = tree.lineage id :=
  lineage_congr (size_withMarks tree marks) (parent?_withMarks tree marks) id

/-- Whether a node is exported does not depend on marks. -/
@[simp] theorem isExported_withMarks (options : ExportOptions) :
    (tree.withMarks marks).isExported options = tree.isExported options := by
  funext id
  rw [isExported, element?_withMarks, isExported]
  cases tree.element? id <;> rfl

/-- Only the marks of the nodes that a tree has can be seen. -/
theorem withMarks_congr {marks marks' : NodeId → Bool}
    (h : ∀ id < tree.size, marks id = marks' id) :
    tree.withMarks marks = tree.withMarks marks' := by
  refine ext_node? fun id => ?_
  rw [node?_withMarks, node?_withMarks]
  rcases Nat.lt_or_ge id tree.size with hid | hid
  · rw [h id hid]
  · rw [node?_eq_none_iff.2 hid]
    rfl

/-- Marking a node replaces its mark. -/
theorem setExportable_withMarks (target : NodeId) (flag : Bool) :
    (tree.withMarks marks).setExportable target flag =
      tree.withMarks fun id => if id = target then flag else marks id := by
  refine ext_node? fun id => ?_
  rw [setExportable, node?_modifyElement, node?_withMarks, node?_withMarks]
  split_ifs
  · rw [Option.map_map]
    rcases tree.node? id with _ | ⟨_, _ | _, _, _⟩ <;> rfl
  · rfl

/-- Marking several nodes replaces their marks. -/
theorem markAll_withMarks (ids : List NodeId) (flag : Bool) :
    (tree.withMarks marks).markAll ids flag =
      tree.withMarks fun id => if id ∈ ids then flag else marks id := by
  induction ids generalizing marks with
  | nil => rfl
  | cons target ids ih =>
      rw [markAll_cons, setExportable_withMarks, ih]
      refine tree.withMarks_congr fun id _ => ?_
      by_cases hid : id ∈ ids
      · rw [if_pos hid, if_pos (List.mem_cons_of_mem target hid)]
      · simp only [List.mem_cons, hid, or_false, if_false]

/-- A well-formed tree is one with any marks. -/
theorem WellFormed.withMarks {tree : Tree} (h : tree.WellFormed) (marks : NodeId → Bool) :
    (tree.withMarks marks).WellFormed where
  size_pos := by rw [size_withMarks]; exact h.size_pos
  root_element := by rw [element?_withMarks, h.root_element, Option.map_none]
  root_parent := by rw [parent?_withMarks]; exact h.root_parent
  element id hpos hlt := by
    rw [size_withMarks] at hlt
    rw [element?_withMarks, Option.isSome_map]
    exact h.element id hpos hlt
  parent id hpos hlt := by
    rw [size_withMarks] at hlt
    rw [parent?_withMarks]
    exact h.parent id hpos hlt
  count id above hpos hlt := by
    rw [size_withMarks] at hlt
    rw [children_withMarks, parent?_withMarks]
    exact h.count id above hpos hlt
  child id child hchild := by
    rw [children_withMarks] at hchild
    rw [size_withMarks]
    exact h.child id child hchild
  sorted id := by rw [children_withMarks]; exact h.sorted id
  names id := by
    simp only [children_withMarks, name?_withMarks]
    exact h.names id
  label id element helement := by
    rw [element?_withMarks] at helement
    obtain ⟨old, hold, rfl⟩ := Option.map_eq_some_iff.1 helement
    rw [label_withMarks]
    exact h.label id old hold

end withMarks

/-! ## Ways -/

/-- The nodes on the way from a node up to `top`, which itself is left out. -/
def way (tree : Tree) (top id : NodeId) : List NodeId :=
  (tree.lineage id).takeWhile (· != top)

/-- Whether the node is an enum or a struct whose members are left out. -/
def hidesMembers (tree : Tree) (options : ExportOptions) (id : NodeId) : Bool :=
  match tree.kind? id with
  | some .enumType => !options.expandEnums
  | some .structType => !options.expandStructs
  | _ => false

/-- Whether the way from `top` down to a node is open: every node on it is exported, the last one
too, and none that is passed through hides its members. -/
def isOpen (tree : Tree) (options : ExportOptions) (top id : NodeId) : Bool :=
  (tree.way top id).all (tree.isExported options) &&
    (tree.way top id).tail.all fun node => !tree.hidesMembers options node

/-- The marks that a selection below `top` leaves. -/
def marksBelow (tree : Tree) (options : ExportOptions) (top : NodeId) (marks : NodeId → Bool)
    (id : NodeId) : Bool :=
  if top ∈ (tree.lineage id).tail then tree.isOpen options top id else marks id

/-- Whether the way to a node is open does not depend on marks. -/
theorem isOpen_withMarks (tree : Tree) (marks : NodeId → Bool) (options : ExportOptions)
    (top id : NodeId) :
    (tree.withMarks marks).isOpen options top id = tree.isOpen options top id := by
  have hhides : (tree.withMarks marks).hidesMembers options = tree.hidesMembers options := by
    funext node
    rw [hidesMembers, kind?_withMarks, hidesMembers]
  rw [isOpen, way, lineage_withMarks, isExported_withMarks, hhides, isOpen, way]

section ways

variable {tree : Tree} {top id child : NodeId} (options : ExportOptions)

/-- A node that declares something is expanded or hides its members. -/
theorem isExpanded_iff (h : tree.isExported options id = true) :
    tree.isExpanded options id = true ↔ tree.hidesMembers options id = false := by
  rw [isExported, Option.any_eq_true] at h
  obtain ⟨element, helement, -⟩ := h
  rw [isExpanded, hidesMembers, kind?, helement, Option.any_some, Option.map_some]
  cases element.kind <;> simp [ExportOptions.expands]

/-- The way from a node to itself is empty. -/
theorem WellFormed.way_self (h : tree.WellFormed) (hid : id < tree.size) : tree.way id id = [] := by
  obtain ⟨above, heq, -⟩ := h.exists_lineage hid
  rw [way, heq, List.takeWhile_cons_of_neg (by simp)]

/-- A node is the first one on its way up to another. -/
theorem WellFormed.way_of_ne (h : tree.WellFormed) (hid : id < tree.size) (hne : id ≠ top) :
    tree.way top id = id :: (tree.way top id).tail := by
  obtain ⟨above, heq, -⟩ := h.exists_lineage hid
  rw [way, heq, List.takeWhile_cons_of_pos (by simpa using hne), List.tail_cons]

/-- The way up from a child goes on as that from its parent. -/
theorem WellFormed.way_of_mem_children (h : tree.WellFormed) (hchild : child ∈ tree.children id)
    (hne : child ≠ top) : tree.way top child = child :: tree.way top id := by
  rw [way, h.lineage_of_mem_children hchild, List.takeWhile_cons_of_pos (by simpa using hne), way]

/-- Right below the chosen node a way is open if it leads to an exported node. -/
theorem WellFormed.isOpen_of_mem_children_self (h : tree.WellFormed)
    (hchild : child ∈ tree.children id) :
    tree.isOpen options id child = tree.isExported options child := by
  have hlt := h.lt_of_mem_children hchild
  have hid := Nat.lt_trans hlt (h.lt_size_of_mem_children hchild)
  rw [isOpen, h.way_of_mem_children hchild (Nat.ne_of_gt hlt), h.way_self hid]
  simp

/-- Further down, an open way goes on from an open way through a node that shows its members. -/
theorem WellFormed.isOpen_of_mem_children (h : tree.WellFormed) (hchild : child ∈ tree.children id)
    (hne : child ≠ top) (habove : id ≠ top) :
    tree.isOpen options top child =
      (tree.isExported options child &&
        (tree.isOpen options top id && !tree.hidesMembers options id)) := by
  have hid := Nat.lt_trans (h.lt_of_mem_children hchild) (h.lt_size_of_mem_children hchild)
  rw [isOpen, h.way_of_mem_children hchild hne, List.tail_cons, List.all_cons, isOpen]
  -- the part of the way behind its first node occurs twice
  have hway := h.way_of_ne hid habove
  rw [hway, List.all_cons, List.all_cons, List.tail_cons]
  ac_rfl

/-- A node at the end of an open way is exported. -/
theorem WellFormed.isExported_of_isOpen (h : tree.WellFormed) (hid : id < tree.size)
    (hne : id ≠ top) (hopen : tree.isOpen options top id = true) :
    tree.isExported options id = true := by
  have hway := (Bool.and_eq_true_iff.1 hopen).1
  rw [h.way_of_ne hid hne, List.all_cons] at hway
  exact (Bool.and_eq_true_iff.1 hway).1

/-- The root is never selected as a descendant. -/
theorem WellFormed.root_notMem_selectedBelow (h : tree.WellFormed) :
    root ∉ tree.selectedBelow options top := by
  rw [h.selectedBelow_eq, List.mem_flatMap]
  rintro ⟨member, hmember, hroot⟩
  have hchild := (List.mem_filter.1 hmember).1
  have hle := h.le_of_reaches_up ((h.isPreorder_selectedFrom options).reaches_up h
    (selectedMembers_subset options tree) hroot)
  exact absurd (h.child _ _ hchild).1 (Nat.not_lt.2 hle)

/-- **The walk down and the way up**: the selected nodes are those strictly below the chosen node to
which the way is open. -/
theorem WellFormed.mem_selectedBelow_iff (h : tree.WellFormed) :
    ∀ id < tree.size, id ∈ tree.selectedBelow options top ↔
      top ∈ (tree.lineage id).tail ∧ tree.isOpen options top id = true := by
  refine h.induction_down ?_ fun above id hid ih => ?_
  · rw [h.lineage_root]
    exact iff_of_false (h.root_notMem_selectedBelow options) fun hroot =>
      absurd hroot.1 List.not_mem_nil
  · have hlt := h.lt_of_mem_children hid
    have hsize := Nat.lt_trans hlt (h.lt_size_of_mem_children hid)
    rw [h.mem_selected_iff options hid, h.lineage_of_mem_children hid, List.tail_cons]
    by_cases habove : above = top
    · subst habove
      rw [h.isOpen_of_mem_children_self options hid]
      constructor
      · rintro ⟨hexported, -⟩
        exact ⟨h.self_mem_lineage above, hexported⟩
      · rintro ⟨-, hexported⟩
        exact ⟨hexported, .inl rfl⟩
    · rw [ih, h.mem_tail_lineage_iff hsize, or_iff_right habove]
      by_cases htop : top ∈ tree.lineage above
      · have hne : id ≠ top :=
          Nat.ne_of_gt (Nat.lt_of_le_of_lt (h.le_of_mem_lineage hsize htop) hlt)
        have hexpanded (hopen : tree.isOpen options top above = true) :=
          isExpanded_iff options (h.isExported_of_isOpen options hsize habove hopen)
        rw [h.isOpen_of_mem_children options hid hne habove]
        simp only [Bool.and_eq_true, Bool.not_eq_true', htop, Ne.symm habove, ne_eq,
          not_false_eq_true, and_self, true_and]
        exact and_congr_right fun _ => and_congr_right hexpanded
      · exact iff_of_false (fun hid => htop hid.2.1.1.1) fun hid => htop hid.1

/-! ## Selections -/

/-- A selection leaves the tree as it is but for the marks below `top`. -/
theorem WellFormed.select_withMarks_eq (h : tree.WellFormed) (marks : NodeId → Bool)
    (top : NodeId) :
    (tree.withMarks marks).select top options =
      tree.withMarks (tree.marksBelow options top marks) := by
  have hmarked := h.withMarks marks
  rw [select_eq, markAll_withMarks, markAll_withMarks]
  refine tree.withMarks_congr fun id hid => ?_
  rw [← size_withMarks tree marks] at hid
  simp only [hmarked.mem_tail_descendants_iff hid, hmarked.mem_selectedBelow_iff options id hid,
    lineage_withMarks, isOpen_withMarks]
  by_cases htop : top ∈ (tree.lineage id).tail
  · rw [marksBelow, if_pos htop, if_pos htop]
    cases tree.isOpen options top id <;> simp [htop]
  · rw [marksBelow, if_neg htop, if_neg htop, if_neg fun hopen => htop hopen.1]

/-- **A selection marks what the way down is open to.**  Whatever was read into a tree and whatever
is marked in it, a selection below a node changes marks only.  Strictly below the node a mark
afterwards says whether the way is open; everywhere else, at the node itself too, it stays.  So what
was marked before makes no difference below the node, and a second selection changes nothing. -/
theorem Reached.select_withMarks (h : tree.Reached) (top : NodeId) (marks : NodeId → Bool) :
    (tree.withMarks marks).select top options =
        tree.withMarks (tree.marksBelow options top marks) ∧
      ((tree.withMarks marks).select top options).node? top = (tree.withMarks marks).node? top ∧
      (∀ (other : NodeId → Bool) (id : NodeId), top ∈ (tree.lineage id).tail →
        ((tree.withMarks marks).select top options).node? id =
          ((tree.withMarks other).select top options).node? id) ∧
      ((tree.withMarks marks).select top options).select top options =
        (tree.withMarks marks).select top options := by
  have hwf := h.wellFormed_and_unmarked.1
  have heq (marks : NodeId → Bool) := hwf.select_withMarks_eq options marks top
  refine ⟨heq marks, ?_, ?_, ?_⟩
  · rw [heq, node?_withMarks, node?_withMarks]
    rcases Nat.lt_or_ge top tree.size with htop | htop
    · rw [marksBelow, if_neg fun hself => ((hwf.mem_tail_lineage_iff htop).1 hself).2 rfl]
    · rw [node?_eq_none_iff.2 htop]
      rfl
  · intro other id htop
    rw [heq, heq, node?_withMarks, node?_withMarks, marksBelow, if_pos htop, marksBelow,
      if_pos htop]
  · rw [heq, heq]
    refine tree.withMarks_congr fun id _ => ?_
    rw [marksBelow, marksBelow]
    split_ifs <;> rfl

end ways

/-- A class with a struct, and in a second source a private class and an enum below it, each with a
member. -/
def layeredTree : Tree :=
  (((ofLabel "Test").read root {}
    "public class A \x7b public struct S \x7b public int x; \x7d \x7d").tree.read 1 {}
    "private class P \x7b public int y; \x7d public enum E \x7b u \x7d").tree

/-- Only public elements are documented, and no members of structs. -/
def publicSurface : ExportOptions :=
  { ExportOptions.ofSettings {} with
    includeInternal := false
    includeProtected := false
    includePrivate := false
    expandEnums := true
    expandStructs := false }

/-- With everything marked before, a selection below the class removes the marks of the private
class and of what is in it and in the struct. -/
theorem select_withMarks_layeredTree :
    layeredTree.Reached ∧
      (layeredTree.withMarks fun _ => true).select 1 publicSurface =
        layeredTree.withMarks (layeredTree.marksBelow publicSurface 1 fun _ => true) ∧
      layeredTree.lineage 5 = [5, 4, 1, 0] ∧
      (List.range 8).filter (layeredTree.marksBelow publicSurface 1 fun _ => true) =
        [0, 1, 2, 6, 7] := by
  have hreached : layeredTree.Reached :=
    ((Reached.ofLabel _).read root (by decide) _ _).read 1 (by decide +kernel) _ _
  exact ⟨hreached, (hreached.select_withMarks publicSurface 1 fun _ => true).1, by decide +kernel,
    by decide +kernel⟩

end DeclAtlas.Tree
