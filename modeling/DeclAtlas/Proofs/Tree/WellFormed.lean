import Mathlib
import DeclAtlas.Proofs.Element.DisplayName
import DeclAtlas.Proofs.Tree.Change
import DeclAtlas.Scanner.Boundary

/-!
# Well-formed trees

The array of nodes of a tree holds each link twice, as a parent and as an entry in a list of
children.  `WellFormed` says that the two agree and that the numbers grow downwards, so that a tree
has no cycles; it also says that siblings have different names and that labels are display names.

Trees change by `declare` alone while a source is read.  It keeps trees well-formed
(`WellFormed.declare`) and marks nothing as exported (`Unmarked.declare`).
-/

namespace DeclAtlas.Tree

open DisplayName

/-- The declared name of a node. -/
def name? (tree : Tree) (id : NodeId) : Option Text :=
  (tree.element? id).map Element.name

/-- The two ways in which a tree stores its links agree, and names and labels are in order. -/
structure WellFormed (tree : Tree) : Prop where
  /-- There is a root. -/
  size_pos : 0 < tree.size
  /-- The root declares nothing. -/
  root_element : tree.element? root = none
  /-- Nothing is above the root. -/
  root_parent : tree.parent? root = none
  /-- Every other node declares something. -/
  element : ∀ id : Nat, 0 < id → id < tree.size → (tree.element? id).isSome
  /-- Every other node has a node above it, and that one is older. -/
  parent : ∀ id : Nat, 0 < id → id < tree.size →
    ∃ above : Nat, above < id ∧ tree.parent? id = some above
  /-- Every other node is listed once below the node above it and nowhere else. -/
  count : ∀ id above : Nat, 0 < id → id < tree.size →
    (tree.children above).count id = if tree.parent? id = some above then 1 else 0
  /-- Only nodes other than the root are listed below a node. -/
  child : ∀ id, ∀ child ∈ tree.children id, 0 < child ∧ child < tree.size
  /-- The nodes below a node are listed in the order of their numbers. -/
  sorted : ∀ id, (tree.children id).Pairwise (· < ·)
  /-- Siblings have different names. -/
  names : ∀ id, (tree.children id).Pairwise fun a b => tree.name? a ≠ tree.name? b
  /-- A node is labelled with its display name. -/
  label : ∀ id element, tree.element? id = some element →
    ofName? element.name = some (tree.label id)

/-- No node is marked as exported. -/
def Unmarked (tree : Tree) : Prop :=
  ∀ id element, tree.element? id = some element → element.exportable = false

/-- A new tree is well-formed. -/
theorem wellFormed_ofLabel (label : Text) : (ofLabel label).WellFormed where
  size_pos := by simp
  root_element := by simp
  root_parent := by simp
  element id hpos hlt := by rw [size_ofLabel] at hlt; omega
  parent id hpos hlt := by rw [size_ofLabel] at hlt; omega
  count id above hpos hlt := by rw [size_ofLabel] at hlt; omega
  child id child hchild := by simp at hchild
  sorted id := by simp
  names id := by simp
  label id element h := by simp at h

/-- Nothing is marked in a new tree. -/
theorem unmarked_ofLabel (label : Text) : (ofLabel label).Unmarked := by
  intro id element h
  simp at h

/-! ## Adding a node -/

/-- Adding a child changes no element that was there. -/
theorem element?_addChild_of_lt {tree : Tree} {id : Nat} (hid : id < tree.size) (parent : Nat)
    (element : Element) : (tree.addChild parent element).element? id = tree.element? id := by
  rw [element?_addChild, if_neg (Nat.ne_of_lt hid)]

/-- Adding a child changes no name that was there. -/
theorem name?_addChild_of_lt {tree : Tree} {id : Nat} (hid : id < tree.size) (parent : Nat)
    (element : Element) : (tree.addChild parent element).name? id = tree.name? id := by
  rw [name?, element?_addChild_of_lt hid, name?]

/-- An added child has the name of its element. -/
@[simp] theorem name?_addChild_size (tree : Tree) (parent : Nat) (element : Element) :
    (tree.addChild parent element).name? tree.size = some element.name := by
  rw [name?, element?_addChild, if_pos rfl]
  rfl

/-- A name that is not found below a node is the name of none of the nodes below it. -/
theorem name?_ne_of_findChild?_eq_none {tree : Tree} {parent : NodeId} {name : Text}
    (h : tree.findChild? parent name = none) {child : NodeId}
    (hchild : child ∈ tree.children parent) : tree.name? child ≠ some name := by
  intro hname
  obtain ⟨element, helement, rfl⟩ := Option.map_eq_some_iff.1 hname
  have hnot := List.find?_eq_none.1 h child hchild
  rw [isNamed, helement] at hnot
  simp at hnot

/-- Adding a child under a new name keeps a tree well-formed. -/
theorem WellFormed.addChild {tree : Tree} (h : tree.WellFormed) {parent : Nat}
    (hparent : parent < tree.size) {element : Element} (hspaced : Spaced element.name)
    (hnew : tree.findChild? parent element.name = none) :
    (tree.addChild parent element).WellFormed where
  size_pos := by simp
  root_element := by
    rw [element?_addChild_of_lt (show root < tree.size from h.size_pos)]
    exact h.root_element
  root_parent := by
    rw [parent?_addChild, if_neg (show root ≠ tree.size from Nat.ne_of_lt h.size_pos)]
    exact h.root_parent
  element id hpos hlt := by
    rw [size_addChild] at hlt
    rw [element?_addChild]
    split_ifs with hid
    · rfl
    · exact h.element id hpos (by omega)
  parent id hpos hlt := by
    rw [size_addChild] at hlt
    rw [parent?_addChild]
    split_ifs with hid
    · exact ⟨parent, by omega, rfl⟩
    · exact h.parent id hpos (by omega)
  count id above hpos hlt := by
    rw [size_addChild] at hlt
    rw [children_addChild element hparent, parent?_addChild]
    by_cases hid : id = tree.size
    · -- the new node is listed nowhere yet
      have hnone : ∀ q, (tree.children q).count id = 0 := by
        intro q
        refine List.count_eq_zero_of_not_mem fun hmem => ?_
        exact Nat.ne_of_lt (h.child q id hmem).2 hid
      subst hid
      by_cases hq : above = parent
      · subst hq
        simp [hnone]
      · simp [hnone, hq, Ne.symm hq]
    · have hcount : ∀ l : List Nat, (l ++ [tree.size]).count id = l.count id := by
        intro l
        simp [Ne.symm hid]
      rw [if_neg hid]
      split_ifs with hq hp
      · rw [hcount, h.count id above hpos (by omega), if_pos hp]
      · rw [hcount, h.count id above hpos (by omega), if_neg hp]
      · rw [h.count id above hpos (by omega), if_pos ‹_›]
      · rw [h.count id above hpos (by omega), if_neg ‹_›]
  child id child hchild := by
    rw [children_addChild element hparent] at hchild
    rw [size_addChild]
    split_ifs at hchild with hid
    · rcases List.mem_append.1 hchild with hchild | hchild
      · exact ⟨(h.child id child hchild).1, Nat.lt_succ_of_lt (h.child id child hchild).2⟩
      · rw [List.mem_singleton] at hchild
        subst hchild
        exact ⟨h.size_pos, Nat.lt_succ_self _⟩
    · exact ⟨(h.child id child hchild).1, Nat.lt_succ_of_lt (h.child id child hchild).2⟩
  sorted id := by
    rw [children_addChild element hparent]
    split_ifs
    · refine List.pairwise_append.2 ⟨h.sorted id, List.pairwise_singleton _ _, ?_⟩
      intro child hchild new hnew
      rw [List.mem_singleton] at hnew
      subst hnew
      exact (h.child id child hchild).2
    · exact h.sorted id
  names id := by
    have hold : (tree.children id).Pairwise fun a b =>
        (tree.addChild parent element).name? a ≠ (tree.addChild parent element).name? b := by
      refine (h.names id).imp_of_mem fun {a b} ha hb hne => ?_
      rwa [name?_addChild_of_lt (h.child id a ha).2, name?_addChild_of_lt (h.child id b hb).2]
    rw [children_addChild element hparent]
    split_ifs with hid
    · refine List.pairwise_append.2 ⟨hold, List.pairwise_singleton _ _, ?_⟩
      intro child hchild new hmem
      rw [List.mem_singleton] at hmem
      subst hmem
      rw [name?_addChild_size, name?_addChild_of_lt (h.child id child hchild).2]
      exact name?_ne_of_findChild?_eq_none hnew (hid ▸ hchild)
    · exact hold
  label id found hfound := by
    rw [element?_addChild] at hfound
    rw [label_addChild]
    split_ifs at hfound ⊢ with hid
    · cases hfound
      obtain ⟨shown, hshown⟩ := Option.isSome_iff_exists.1 (ofName?_isSome hspaced)
      rw [Element.displayName, ofName, hshown, Option.getD_some]
    · exact h.label id found hfound

/-- Adding a child that is not marked marks nothing. -/
theorem Unmarked.addChild {tree : Tree} (h : tree.Unmarked) (parent : Nat) {element : Element}
    (helement : element.exportable = false) : (tree.addChild parent element).Unmarked := by
  intro id found hfound
  rw [element?_addChild] at hfound
  split_ifs at hfound with hid
  · cases hfound
    exact helement
  · exact h id found hfound

/-! ## Changing a declaration in place -/

/-- A change that keeps the name of an element keeps all names. -/
theorem name?_modifyElement {change : Element → Element}
    (hchange : ∀ element, (change element).name = element.name) (tree : Tree) (target id : Nat) :
    (tree.modifyElement target change).name? id = tree.name? id := by
  rw [name?, element?_modifyElement, name?]
  split_ifs
  · rw [Option.map_map]
    congr 1
    funext element
    exact hchange element
  · rfl

/-- A change that leaves names alone keeps a tree well-formed. -/
theorem WellFormed.modifyElement {tree : Tree} (h : tree.WellFormed) (target : Nat)
    {change : Element → Element} (hchange : ∀ element, (change element).name = element.name) :
    (tree.modifyElement target change).WellFormed where
  size_pos := by rw [size_modifyElement]; exact h.size_pos
  root_element := by
    rw [element?_modifyElement, h.root_element]
    split_ifs <;> rfl
  root_parent := by rw [parent?_modifyElement]; exact h.root_parent
  element id hpos hlt := by
    rw [size_modifyElement] at hlt
    rw [element?_modifyElement]
    split_ifs
    · rw [Option.isSome_map]
      exact h.element id hpos hlt
    · exact h.element id hpos hlt
  parent id hpos hlt := by
    rw [size_modifyElement] at hlt
    rw [parent?_modifyElement]
    exact h.parent id hpos hlt
  count id above hpos hlt := by
    rw [size_modifyElement] at hlt
    rw [children_modifyElement, parent?_modifyElement]
    exact h.count id above hpos hlt
  child id child hchild := by
    rw [children_modifyElement] at hchild
    rw [size_modifyElement]
    exact h.child id child hchild
  sorted id := by rw [children_modifyElement]; exact h.sorted id
  names id := by
    simp only [children_modifyElement, name?_modifyElement hchange]
    exact h.names id
  label id found hfound := by
    rw [label_modifyElement]
    rw [element?_modifyElement] at hfound
    split_ifs at hfound
    · obtain ⟨element, helement, rfl⟩ := Option.map_eq_some_iff.1 hfound
      rw [hchange]
      exact h.label id element helement
    · exact h.label id found hfound

/-- A change that does not mark an element marks nothing. -/
theorem Unmarked.modifyElement {tree : Tree} (h : tree.Unmarked) (target : Nat)
    {change : Element → Element}
    (hchange : ∀ element, (change element).exportable = element.exportable) :
    (tree.modifyElement target change).Unmarked := by
  intro id found hfound
  rw [element?_modifyElement] at hfound
  split_ifs at hfound
  · obtain ⟨element, helement, rfl⟩ := Option.map_eq_some_iff.1 hfound
    rw [hchange]
    exact h id element helement
  · exact h id found hfound

/-! ## Declaring -/

/-- The element that a new declaration puts into the tree. -/
def inherit (tree : Tree) (parent : NodeId) (inherits : Bool) (element : Element) : Element :=
  match if inherits then (tree.lastChild? parent).bind tree.element? else none with
  | none => element
  | some sibling =>
    { sibling with
      name := element.name
      defaultValue := element.defaultValue
      summary := element.summary
      exportable := false }

/-- A declaration takes no name from its sibling. -/
@[simp] theorem name_inherit (tree : Tree) (parent : NodeId) (inherits : Bool) (element : Element) :
    (tree.inherit parent inherits element).name = element.name := by
  unfold inherit
  split <;> rfl

/-- A declaration takes no mark from its sibling. -/
theorem exportable_inherit (tree : Tree) (parent : NodeId) (inherits : Bool) {element : Element}
    (h : element.exportable = false) :
    (tree.inherit parent inherits element).exportable = false := by
  unfold inherit
  split
  · exact h
  · rfl

/-- A name that is declared already only adds its documentation. -/
theorem declare_of_some {tree : Tree} {parent existing : NodeId} {element : Element}
    (h : tree.findChild? parent element.name = some existing) (inherits : Bool) :
    tree.declare parent inherits element =
      (tree.appendSummary existing element.summary, existing) := by
  simp only [declare, h]

/-- A new name adds a node. -/
theorem declare_of_none {tree : Tree} {parent : NodeId} {element : Element}
    (h : tree.findChild? parent element.name = none) (inherits : Bool) :
    tree.declare parent inherits element =
      (tree.addChild parent (tree.inherit parent inherits element), tree.size) := by
  simp only [declare, h]
  rfl

section declare

variable {tree : Tree} {parent : Nat} {element : Element} (inherits : Bool)

/-- A declaration keeps a tree well-formed. -/
theorem WellFormed.declare (h : tree.WellFormed) (hparent : parent < tree.size)
    (hspaced : Spaced element.name) : (tree.declare parent inherits element).1.WellFormed := by
  rcases hfind : tree.findChild? parent element.name with _ | existing
  · rw [declare_of_none hfind]
    apply h.addChild hparent
    · rwa [name_inherit]
    · rwa [name_inherit]
  · rw [declare_of_some hfind]
    exact h.modifyElement existing fun _ => rfl

/-- A declaration marks nothing. -/
theorem Unmarked.declare (h : tree.Unmarked) (helement : element.exportable = false) :
    (tree.declare parent inherits element).1.Unmarked := by
  rcases hfind : tree.findChild? parent element.name with _ | existing
  · rw [declare_of_none hfind]
    exact h.addChild parent (exportable_inherit tree parent inherits helement)
  · rw [declare_of_some hfind]
    exact h.modifyElement existing fun _ => rfl

/-- A tree never loses nodes. -/
theorem size_le_declare : tree.size ≤ (tree.declare parent inherits element).1.size := by
  rcases hfind : tree.findChild? parent element.name with _ | existing
  · rw [declare_of_none hfind, size_addChild]
    exact Nat.le_succ _
  · rw [declare_of_some hfind, appendSummary, size_modifyElement]

/-- The declared node is one of the tree. -/
theorem declare_lt_size (h : tree.WellFormed) :
    (tree.declare parent inherits element).2 < (tree.declare parent inherits element).1.size := by
  rcases hfind : tree.findChild? parent element.name with _ | existing
  · rw [declare_of_none hfind, size_addChild]
    exact Nat.lt_succ_self _
  · rw [declare_of_some hfind, appendSummary, size_modifyElement]
    exact (h.child parent existing (List.mem_of_find?_eq_some hfind)).2

end declare

end DeclAtlas.Tree
