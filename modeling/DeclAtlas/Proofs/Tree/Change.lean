import Mathlib
import DeclAtlas.Tree.Basic

/-!
# Looking at a changed tree

A tree changes in two ways: a node is added as the last one below another, or the declaration of a
node is changed in place.  For each way and each accessor there is one equation, so that no later
proof opens the array of nodes.
-/

namespace DeclAtlas.Tree

/-- The nodes are numbered from zero, without gaps. -/
theorem node?_eq_none_iff {tree : Tree} {id : Nat} : tree.node? id = none ↔ tree.size ≤ id := by
  simp [node?, size]

/-- A number behind the last node has no children. -/
theorem children_of_size_le {tree : Tree} {id : Nat} (h : tree.size ≤ id) :
    tree.children id = [] := by
  rw [children, node?_eq_none_iff.2 h, Option.map_none, Option.getD_none]

/-- A tree is known by its nodes. -/
theorem ext_node? {tree tree' : Tree} (h : ∀ id, tree.node? id = tree'.node? id) : tree = tree' :=
  congrArg Tree.mk (Array.ext_getElem? h)

/-! ## The tree that has only a root -/

/-- A new tree has one node. -/
@[simp] theorem size_ofLabel (label : Text) : (ofLabel label).size = 1 := rfl

/-- The root of a new tree has no element. -/
@[simp] theorem element?_ofLabel (label : Text) (id : Nat) :
    (ofLabel label).element? id = none := by
  cases id <;> rfl

/-- The root of a new tree has no parent. -/
@[simp] theorem parent?_ofLabel (label : Text) (id : Nat) :
    (ofLabel label).parent? id = none := by
  cases id <;> rfl

/-- The root of a new tree has no children. -/
@[simp] theorem children_ofLabel (label : Text) (id : Nat) :
    (ofLabel label).children id = [] := by
  cases id <;> rfl

/-- A root has no mark. -/
theorem setExportable_ofLabel (label : Text) (id : NodeId) (flag : Bool) :
    (ofLabel label).setExportable id flag = ofLabel label := by
  cases id with
  | zero => rfl
  | succ id => rfl

/-! ## Adding a node -/

section addChild

variable (tree : Tree) (parent : Nat) (element : Element)

/-- Adding a child adds one node. -/
@[simp] theorem size_addChild : (tree.addChild parent element).size = tree.size + 1 := by
  simp [addChild, size]

/-- The nodes behind an added child: the child at the end, and its parent with one more child. -/
theorem node?_addChild (id : Nat) :
    (tree.addChild parent element).node? id =
      if id = tree.size then
        some { label := element.displayName, element := some element, parent := some parent }
      else if id = parent then
        (tree.node? id).map fun node => { node with children := node.children ++ [tree.size] }
      else tree.node? id := by
  unfold addChild node?
  rw [Array.getElem?_push, Array.size_modify, Array.getElem?_modify]
  change (if id = tree.size then _ else _) = _
  by_cases hid : id = tree.size
  · rw [if_pos hid, if_pos hid]
  · rw [if_neg hid, if_neg hid]
    by_cases hparent : id = parent
    · rw [if_pos hparent, if_pos hparent.symm]
    · rw [if_neg hparent, if_neg (Ne.symm hparent)]

/-- Adding a child changes no other element. -/
theorem element?_addChild (id : Nat) :
    (tree.addChild parent element).element? id =
      if id = tree.size then some element else tree.element? id := by
  rw [element?, node?_addChild, element?]
  split_ifs
  · rfl
  · cases tree.node? id <;> rfl
  · rfl

/-- Adding a child changes no other parent. -/
theorem parent?_addChild (id : Nat) :
    (tree.addChild parent element).parent? id =
      if id = tree.size then some parent else tree.parent? id := by
  rw [parent?, node?_addChild, parent?]
  split_ifs
  · rfl
  · cases tree.node? id <;> rfl
  · rfl

/-- Adding a child changes no other label. -/
theorem label_addChild (id : Nat) :
    (tree.addChild parent element).label id =
      if id = tree.size then element.displayName else tree.label id := by
  rw [label, node?_addChild, label]
  split_ifs
  · rfl
  · cases tree.node? id <;> rfl
  · rfl

variable {tree parent} in
/-- An added child is the last one of its parent. -/
theorem children_addChild (hparent : parent < tree.size) (id : Nat) :
    (tree.addChild parent element).children id =
      if id = parent then tree.children id ++ [tree.size] else tree.children id := by
  rw [children, node?_addChild]
  by_cases hid : id = tree.size
  · have hne : id ≠ parent := by omega
    rw [if_pos hid, if_neg hne, children_of_size_le (Nat.le_of_eq hid.symm)]
    rfl
  · rw [if_neg hid]
    by_cases hp : id = parent
    · obtain ⟨node, hnode⟩ : ∃ node, tree.node? id = some node := by
        rw [← Option.isSome_iff_exists, Option.isSome_iff_ne_none, ne_eq, node?_eq_none_iff]
        omega
      rw [if_pos hp, if_pos hp, children, hnode]
      rfl
    · rw [if_neg hp, if_neg hp, children]

end addChild

/-! ## Changing a declaration in place -/

section modifyElement

variable (tree : Tree) (target : Nat) (change : Element → Element)

/-- Changing an element adds and removes no nodes. -/
@[simp] theorem size_modifyElement : (tree.modifyElement target change).size = tree.size := by
  simp [modifyElement, size]

/-- Changing an element changes nothing about other nodes. -/
theorem node?_modifyElement (id : Nat) :
    (tree.modifyElement target change).node? id =
      if id = target then
        (tree.node? id).map fun node => { node with element := node.element.map change }
      else tree.node? id := by
  simp only [modifyElement, node?, Array.getElem?_modify]
  by_cases h : id = target
  · rw [if_pos h, if_pos h.symm]
  · rw [if_neg h, if_neg (Ne.symm h)]

/-- The element of the node is changed, and no other. -/
theorem element?_modifyElement (id : Nat) :
    (tree.modifyElement target change).element? id =
      if id = target then (tree.element? id).map change else tree.element? id := by
  rw [element?, node?_modifyElement, element?]
  split_ifs
  · cases tree.node? id <;> rfl
  · rfl

/-- Changing an element changes no parent. -/
@[simp] theorem parent?_modifyElement (id : Nat) :
    (tree.modifyElement target change).parent? id = tree.parent? id := by
  rw [parent?, node?_modifyElement, parent?]
  split_ifs
  · cases tree.node? id <;> rfl
  · rfl

/-- Changing an element changes no label. -/
@[simp] theorem label_modifyElement (id : Nat) :
    (tree.modifyElement target change).label id = tree.label id := by
  rw [label, node?_modifyElement, label]
  split_ifs
  · cases tree.node? id <;> rfl
  · rfl

/-- Changing an element changes no children. -/
@[simp] theorem children_modifyElement (id : Nat) :
    (tree.modifyElement target change).children id = tree.children id := by
  rw [children, node?_modifyElement, children]
  split_ifs
  · cases tree.node? id <;> rfl
  · rfl

end modifyElement

end DeclAtlas.Tree
