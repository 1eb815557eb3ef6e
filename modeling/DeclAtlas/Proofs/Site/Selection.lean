import Mathlib
import DeclAtlas.Proofs.Tree.Branch
import DeclAtlas.Site.Selection

/-!
# What is selected

A selection changes nothing in a tree but marks (`size_select` and what follows it), and afterwards
the marked nodes below the chosen one are the selected ones (`WellFormed.element?_select`).

The selected nodes are listed by a recursion downwards.  Seen from below, a node is selected if its
own visibility is exported and the node above it is either the chosen one or selected and expanded
(`WellFormed.mem_selected_iff`).
-/

namespace DeclAtlas

/-- The nodes selected in branches are those of each branch, one branch after the other. -/
theorem Branch.selectedOfAll_eq (options : ExportOptions) (branches : List Branch) :
    Branch.selectedOfAll options branches = branches.flatMap (Branch.selected options) := by
  induction branches with
  | nil => rfl
  | cons branch branches ih => rw [Branch.selectedOfAll, ih, List.flatMap_cons]

namespace Tree

/-! ## Marking nodes -/

/-- Marks several nodes, or removes their marks. -/
def markAll (tree : Tree) (ids : List NodeId) (flag : Bool) : Tree :=
  ids.foldl (fun tree id => tree.setExportable id flag) tree

section markAll

variable (tree : Tree) (ids : List NodeId) (flag : Bool)

/-- Several nodes are marked one after the other. -/
theorem markAll_cons (id : NodeId) :
    tree.markAll (id :: ids) flag = (tree.setExportable id flag).markAll ids flag :=
  rfl

/-- Marking adds and removes no nodes. -/
@[simp] theorem size_markAll : (tree.markAll ids flag).size = tree.size := by
  induction ids generalizing tree with
  | nil => rfl
  | cons id ids ih => rw [markAll_cons, ih, setExportable, size_modifyElement]

/-- Marking changes no label. -/
@[simp] theorem label_markAll (id : NodeId) : (tree.markAll ids flag).label id = tree.label id := by
  induction ids generalizing tree with
  | nil => rfl
  | cons target ids ih => rw [markAll_cons, ih, setExportable, label_modifyElement]

/-- Marking changes no parent. -/
@[simp] theorem parent?_markAll (id : NodeId) :
    (tree.markAll ids flag).parent? id = tree.parent? id := by
  induction ids generalizing tree with
  | nil => rfl
  | cons target ids ih => rw [markAll_cons, ih, setExportable, parent?_modifyElement]

/-- Marking changes no children. -/
@[simp] theorem children_markAll (id : NodeId) :
    (tree.markAll ids flag).children id = tree.children id := by
  induction ids generalizing tree with
  | nil => rfl
  | cons target ids ih => rw [markAll_cons, ih, setExportable, children_modifyElement]

/-- Marking changes the marks of the nodes that are listed, and nothing else. -/
theorem element?_markAll (id : NodeId) :
    (tree.markAll ids flag).element? id =
      if id ∈ ids then (tree.element? id).map fun element => { element with exportable := flag }
      else tree.element? id := by
  induction ids generalizing tree with
  | nil => rfl
  | cons target ids ih =>
      rw [markAll_cons, ih, setExportable, element?_modifyElement]
      by_cases htarget : id = target
      · -- a second mark replaces the first one by itself
        subst htarget
        rw [if_pos rfl, if_pos List.mem_cons_self, Option.map_map]
        exact ite_self _
      · rw [if_neg htarget]
        simp only [List.mem_cons, htarget, false_or]

/-- Marking keeps a tree well-formed. -/
theorem WellFormed.markAll {tree : Tree} (h : tree.WellFormed) (ids : List NodeId) (flag : Bool) :
    (tree.markAll ids flag).WellFormed := by
  induction ids generalizing tree with
  | nil => exact h
  | cons id ids ih => exact ih (h.modifyElement id fun _ => rfl)

end markAll

/-! ## What a selection changes -/

/-- The nodes that a selection below `top` marks. -/
def selectedBelow (tree : Tree) (options : ExportOptions) (top : NodeId) : List NodeId :=
  Branch.selectedOfAll options (tree.branch top).children

section select

variable (tree : Tree) (top : NodeId) (options : ExportOptions)

/-- A selection removes all marks below the chosen node and sets those of the selected ones. -/
theorem select_eq : tree.select top options =
    (tree.markAll (tree.descendants top).tail false).markAll
      (tree.selectedBelow options top) true :=
  rfl

/-- A selection adds and removes no nodes. -/
@[simp] theorem size_select : (tree.select top options).size = tree.size := by
  rw [select_eq, size_markAll, size_markAll]

/-- A selection changes no label. -/
@[simp] theorem label_select (id : NodeId) :
    (tree.select top options).label id = tree.label id := by
  rw [select_eq, label_markAll, label_markAll]

/-- A selection changes no parent. -/
@[simp] theorem parent?_select (id : NodeId) :
    (tree.select top options).parent? id = tree.parent? id := by
  rw [select_eq, parent?_markAll, parent?_markAll]

/-- A selection changes no children. -/
@[simp] theorem children_select (id : NodeId) :
    (tree.select top options).children id = tree.children id := by
  rw [select_eq, children_markAll, children_markAll]

/-- A selection keeps a tree well-formed. -/
theorem WellFormed.select {tree : Tree} (h : tree.WellFormed) (top : NodeId)
    (options : ExportOptions) : (tree.select top options).WellFormed :=
  (h.markAll _ false).markAll _ true

end select

/-! ## Which nodes are selected -/

/-- Whether the visibility of a node is exported. -/
def isExported (tree : Tree) (options : ExportOptions) (id : NodeId) : Bool :=
  (tree.element? id).any fun element => options.exports element.visibility

/-- Whether the members of a node are documented. -/
def isExpanded (tree : Tree) (options : ExportOptions) (id : NodeId) : Bool :=
  (tree.element? id).any fun element => options.expands element.kind

/-- The members that a selected node hands its selection on to. -/
def selectedMembers (tree : Tree) (options : ExportOptions) (id : NodeId) : List NodeId :=
  if tree.isExpanded options id then (tree.children id).filter (tree.isExported options) else []

/-- A node with what is selected below it if it is selected. -/
def selectedFrom (tree : Tree) (options : ExportOptions) (id : NodeId) : List NodeId :=
  id :: if tree.isExpanded options id then tree.selectedBelow options id else []

section selected

variable {tree : Tree} (options : ExportOptions)

/-- In a branch nothing is selected unless its top node is exported. -/
theorem WellFormed.selected_branch (h : tree.WellFormed) (id : NodeId) :
    (tree.branch id).selected options =
      if tree.isExported options id then tree.selectedFrom options id else [] := by
  rw [isExported, selectedFrom, isExpanded, selectedBelow, h.children_branch, h.branch_eq]
  cases tree.element? id <;> rfl

/-- The selection below a node is the selection from those of its members that are exported. -/
theorem WellFormed.selectedBelow_eq (h : tree.WellFormed) (top : NodeId) :
    tree.selectedBelow options top =
      ((tree.children top).filter (tree.isExported options)).flatMap
        (tree.selectedFrom options) := by
  rw [selectedBelow, Branch.selectedOfAll_eq, h.children_branch, List.flatMap_map]
  induction tree.children top with
  | nil => rfl
  | cons child children ih =>
      rw [List.flatMap_cons, ih, h.selected_branch, List.filter_cons]
      split_ifs
      · rw [List.flatMap_cons]
      · rfl

/-- The selected nodes are listed in pre-order. -/
theorem WellFormed.isPreorder_selectedFrom (h : tree.WellFormed) :
    IsPreorder (tree.selectedMembers options) (tree.selectedFrom options) := by
  intro id
  rw [selectedMembers]
  conv_lhs => rw [selectedFrom, h.selectedBelow_eq]
  split_ifs <;> rfl

/-- A selection is handed on to children only. -/
theorem selectedMembers_subset (tree : Tree) (id : NodeId) :
    tree.selectedMembers options id ⊆ tree.children id := by
  rw [selectedMembers]
  split_ifs
  · exact List.filter_sublist.subset
  · exact List.nil_subset _

/-- **Selection seen from below**: the node itself is exported, and the node above it is the chosen
one or a selected one that is expanded. -/
theorem WellFormed.mem_selected_iff (h : tree.WellFormed) {top above id : NodeId}
    (hid : id ∈ tree.children above) :
    id ∈ tree.selectedBelow options top ↔
      tree.isExported options id ∧
        (above = top ∨ above ∈ tree.selectedBelow options top ∧ tree.isExpanded options above) := by
  have hsubset := selectedMembers_subset options tree
  have hmem (x : NodeId) : x ∈ tree.selectedBelow options top ↔
      ∃ member ∈ tree.children top, tree.isExported options member ∧
        x ∈ tree.selectedFrom options member := by
    rw [h.selectedBelow_eq, List.mem_flatMap]
    simp only [List.mem_filter, and_assoc]
  constructor
  · intro hselected
    obtain ⟨member, hmember, hexported, hfrom⟩ := (hmem id).1 hselected
    by_cases hne : id = member
    · subst hne
      exact ⟨hexported, .inl (h.parent_unique hid hmember)⟩
    · obtain ⟨habove, hlink⟩ :=
        ((h.isPreorder_selectedFrom options).mem_iff_of_mem_children h hsubset hid hne).1 hfrom
      rw [selectedMembers] at hlink
      split_ifs at hlink with hexpanded
      · exact ⟨(List.mem_filter.1 hlink).2,
          .inr ⟨(hmem above).2 ⟨member, hmember, hexported, habove⟩, hexpanded⟩⟩
      · cases hlink
  · rintro ⟨hexported, rfl | ⟨habove, hexpanded⟩⟩
    · refine (hmem id).2 ⟨id, hid, hexported, ?_⟩
      rw [selectedFrom]
      exact List.mem_cons_self
    · obtain ⟨member, hmember, hexported', hfrom⟩ := (hmem above).1 habove
      refine (hmem id).2 ⟨member, hmember, hexported', ?_⟩
      have horder := h.isPreorder_selectedFrom options
      refine (horder.mem_iff h hsubset).2 (((horder.mem_iff h hsubset).1 hfrom).tail ?_)
      rw [selectedMembers, if_pos hexpanded]
      exact List.mem_filter.2 ⟨hid, hexported⟩

/-- After a selection below the root, the mark of every node says whether it is selected. -/
theorem WellFormed.element?_select (h : tree.WellFormed) (id : NodeId) :
    (tree.select root options).element? id =
      (tree.element? id).map fun element =>
        { element with exportable := decide (id ∈ tree.selectedBelow options root) } := by
  rw [select_eq, element?_markAll, element?_markAll]
  rcases helement : tree.element? id with _ | element
  · simp
  · -- a node that declares something is not the root, so its old mark has been removed
    have hne : id ≠ root := by
      rintro rfl
      cases h.root_element.symm.trans helement
    have hlt : id < tree.size := by
      by_contra hle
      rw [element?, node?_eq_none_iff.2 (Nat.le_of_not_lt hle)] at helement
      cases helement
    have htail : id ∈ (tree.descendants root).tail := by
      have hmem := h.mem_descendants_root id hlt
      rw [h.isPreorder_descendants] at hmem ⊢
      exact (List.mem_cons.1 hmem).resolve_left hne
    rw [if_pos htail]
    by_cases hselected : id ∈ tree.selectedBelow options root
    · simp [hselected]
    · simp [hselected]

end selected

end Tree

end DeclAtlas
