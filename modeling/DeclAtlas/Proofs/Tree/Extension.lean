import Mathlib
import DeclAtlas.Proofs.Tree.WellFormed

/-!
# Trees that have grown

`Tree.ExtendedBy a b` says that `b` has grown out of `a`: every node of `a` is still there under
its number and says what it said, except that its documentation may have become longer and that
new nodes may be listed behind its children.

* **Theorem** (`Tree.extendedBy_declare`): a declaration, new or repeated, only ever extends a tree.
* `Tree.ExtendedBy.findChild?`: what is found by name below a node stays what is found there.
* `Tree.findChild?_declare`: a declared name is found below the node that received it.
-/

namespace DeclAtlas

/-- The second element is the first one with documentation added at its end. -/
structure Element.ExtendedBy (a b : Element) : Prop where
  /-- Apart from the documentation nothing has changed. -/
  same : b = { a with summary := b.summary }
  /-- Documentation is only ever added. -/
  summary : a.summary <+: b.summary

/-- The second node is the first one after a tree of `size` nodes has grown. -/
structure Node.ExtendedBy (size : Nat) (a b : Node) : Prop where
  /-- The label stays. -/
  label : b.label = a.label
  /-- The node above stays. -/
  parent : b.parent = a.parent
  /-- The declaration stays, up to added documentation. -/
  element : Option.Rel Element.ExtendedBy a.element b.element
  /-- New children are listed behind the old ones. -/
  children : a.children <+: b.children
  /-- What is listed behind the old children is new. -/
  further : ∀ child ∈ b.children.drop a.children.length, size ≤ child

/-- The second tree has grown out of the first one. -/
def Tree.ExtendedBy (a b : Tree) : Prop :=
  ∀ id node, a.node? id = some node →
    ∃ node', b.node? id = some node' ∧ node.ExtendedBy a.size node'

/-! ## Elements and nodes -/

theorem Element.ExtendedBy.refl (a : Element) : a.ExtendedBy a :=
  ⟨rfl, List.prefix_rfl⟩

/-- Documentation may be added several times. -/
theorem Element.ExtendedBy.trans {a b c : Element} (hab : a.ExtendedBy b) (hbc : b.ExtendedBy c) :
    a.ExtendedBy c := by
  refine ⟨?_, hab.summary.trans hbc.summary⟩
  rw [hbc.same, hab.same]

/-- Adding documentation extends an element. -/
theorem Element.extendedBy_append (a : Element) (summary : Text) :
    a.ExtendedBy { a with summary := a.summary ++ summary } :=
  ⟨rfl, List.prefix_append _ _⟩

theorem Element.rel_refl (a : Option Element) : Option.Rel Element.ExtendedBy a a := by
  cases a with
  | none => exact .none
  | some element => exact .some (.refl element)

/-- What a node holds may be extended several times. -/
theorem Element.rel_trans {a b c : Option Element} (hab : Option.Rel Element.ExtendedBy a b)
    (hbc : Option.Rel Element.ExtendedBy b c) : Option.Rel Element.ExtendedBy a c := by
  cases hab with
  | none => exact hbc
  | some hab =>
      cases hbc with
      | some hbc => exact .some (hab.trans hbc)

theorem Node.ExtendedBy.refl (size : Nat) (node : Node) : node.ExtendedBy size node where
  label := rfl
  parent := rfl
  element := Element.rel_refl node.element
  children := List.prefix_rfl
  further := by
    intro child hchild
    rw [List.drop_length] at hchild
    exact absurd hchild List.not_mem_nil

/-- A node may be extended several times, while the tree grows. -/
theorem Node.ExtendedBy.trans {size size' : Nat} {a b c : Node} (hab : a.ExtendedBy size b)
    (hbc : b.ExtendedBy size' c) (hsize : size ≤ size') : a.ExtendedBy size c where
  label := hbc.label.trans hab.label
  parent := hbc.parent.trans hab.parent
  element := Element.rel_trans hab.element hbc.element
  children := hab.children.trans hbc.children
  further := by
    intro child hchild
    obtain ⟨more, hmore⟩ := hab.children
    obtain ⟨rest, hrest⟩ := hbc.children
    have habove := hab.further child
    have hbeyond := hbc.further child
    rw [← hmore, List.drop_left] at habove
    rw [← hrest, List.drop_left] at hbeyond
    rw [← hrest, ← hmore, List.append_assoc, List.drop_left] at hchild
    rcases List.mem_append.1 hchild with hchild | hchild
    · exact habove hchild
    · exact hsize.trans (hbeyond hchild)

namespace Tree

/-! ## Trees -/

/-- Every number below the size has a node. -/
theorem exists_node? {tree : Tree} {id : Nat} (hid : id < tree.size) :
    ∃ node, tree.node? id = some node := by
  rw [← Option.isSome_iff_exists, Option.isSome_iff_ne_none, ne_eq, node?_eq_none_iff]
  exact Nat.not_le_of_lt hid

theorem ExtendedBy.refl (tree : Tree) : tree.ExtendedBy tree :=
  fun _ node hnode => ⟨node, hnode, .refl _ node⟩

/-- A tree never loses nodes. -/
theorem ExtendedBy.size_le {a b : Tree} (h : a.ExtendedBy b) : a.size ≤ b.size := by
  by_contra hlt
  obtain ⟨node, hnode⟩ := exists_node? (Nat.lt_of_not_le hlt)
  obtain ⟨node', hnode', -⟩ := h b.size node hnode
  rw [node?_eq_none_iff.2 (Nat.le_refl _)] at hnode'
  cases hnode'

/-- A tree may grow several times. -/
theorem ExtendedBy.trans {a b c : Tree} (hab : a.ExtendedBy b) (hbc : b.ExtendedBy c) :
    a.ExtendedBy c := by
  intro id node hnode
  obtain ⟨node', hnode', hext⟩ := hab id node hnode
  obtain ⟨node'', hnode'', hext'⟩ := hbc id node' hnode'
  exact ⟨node'', hnode'', hext.trans hext' hab.size_le⟩

/-- Adding a child extends a tree. -/
theorem extendedBy_addChild (tree : Tree) (parent : Nat) (element : Element) :
    tree.ExtendedBy (tree.addChild parent element) := by
  intro id node hnode
  have hid : id ≠ tree.size := by
    rintro rfl
    rw [node?_eq_none_iff.2 (Nat.le_refl _)] at hnode
    cases hnode
  rw [node?_addChild, if_neg hid, hnode]
  split_ifs
  · refine ⟨_, rfl, rfl, rfl, Element.rel_refl _, List.prefix_append _ _, ?_⟩
    intro child hchild
    rw [List.drop_left, List.mem_singleton] at hchild
    exact hchild.ge
  · exact ⟨node, rfl, .refl _ node⟩

/-- Adding documentation extends a tree. -/
theorem extendedBy_appendSummary (tree : Tree) (target : Nat) (summary : Text) :
    tree.ExtendedBy (tree.appendSummary target summary) := by
  intro id node hnode
  rw [appendSummary, node?_modifyElement, hnode]
  split_ifs
  · refine ⟨_, rfl, rfl, rfl, ?_, List.prefix_rfl, (Node.ExtendedBy.refl tree.size node).further⟩
    change Option.Rel Element.ExtendedBy node.element (node.element.map _)
    cases node.element with
    | none => exact .none
    | some element => exact .some (element.extendedBy_append summary)
  · exact ⟨node, rfl, .refl _ node⟩

/-- **A declaration only ever extends a tree**, whether its name is new or not. -/
theorem extendedBy_declare (tree : Tree) (parent : Nat) (inherits : Bool) (element : Element) :
    tree.ExtendedBy (tree.declare parent inherits element).1 := by
  cases hfind : tree.findChild? parent element.name with
  | none =>
      rw [declare_of_none hfind]
      exact tree.extendedBy_addChild parent _
  | some existing =>
      rw [declare_of_some hfind]
      exact tree.extendedBy_appendSummary existing element.summary

/-! ## Names in a tree that has grown -/

/-- The children of a node come first among its children later on. -/
theorem ExtendedBy.children {a b : Tree} (h : a.ExtendedBy b) (id : Nat) :
    a.children id <+: b.children id := by
  rcases Nat.lt_or_ge id a.size with hid | hid
  · obtain ⟨node, hnode⟩ := exists_node? hid
    obtain ⟨node', hnode', hext⟩ := h id node hnode
    rw [Tree.children, Tree.children, hnode, hnode']
    exact hext.children
  · rw [children_of_size_le hid]
    exact List.nil_prefix

/-- A node keeps its name. -/
theorem ExtendedBy.name? {a b : Tree} (h : a.ExtendedBy b) {id : Nat} (hid : id < a.size) :
    b.name? id = a.name? id := by
  obtain ⟨node, hnode⟩ := exists_node? hid
  obtain ⟨node', hnode', hext⟩ := h id node hnode
  have helement := hext.element
  rw [Tree.name?, Tree.name?, element?, element?, hnode, hnode', Option.bind_some,
    Option.bind_some]
  generalize node.element = element at helement ⊢
  generalize node'.element = element' at helement ⊢
  cases helement with
  | none => rfl
  | some hgrown => rw [Option.map_some, Option.map_some, hgrown.same]

/-- Whether a node has a name can be told from its name alone. -/
theorem isNamed_eq (tree : Tree) (id : Nat) (name : Text) :
    tree.isNamed id name = (tree.name? id).any (· == name) := by
  rw [isNamed, Tree.name?]
  cases tree.element? id <;> rfl

/-- What is found by name below a node stays what is found there. -/
theorem ExtendedBy.findChild? {a b : Tree} (h : a.ExtendedBy b) (ha : a.WellFormed)
    {parent found : NodeId} {name : Text} (hfound : a.findChild? parent name = some found) :
    b.findChild? parent name = some found := by
  obtain ⟨more, hmore⟩ := h.children parent
  have hnames : ∀ child ∈ a.children parent, b.isNamed child name = a.isNamed child name := by
    intro child hchild
    rw [isNamed_eq, isNamed_eq, h.name? (ha.child parent child hchild).2]
  rw [Tree.findChild?, ← hmore, List.find?_append, List.find?_congr hnames]
  exact (congrArg (Option.or · _) hfound).trans Option.some_or

/-- A declared name is found below the node that received it. -/
theorem findChild?_declare {tree : Tree} (h : tree.WellFormed) {parent : Nat}
    (hparent : parent < tree.size) (inherits : Bool) (element : Element) :
    (tree.declare parent inherits element).1.findChild? parent element.name =
      some (tree.declare parent inherits element).2 := by
  cases hfind : tree.findChild? parent element.name with
  | some existing =>
      rw [declare_of_some hfind]
      exact (tree.extendedBy_appendSummary existing element.summary).findChild? h hfind
  | none =>
      rw [declare_of_none hfind]
      have hold : ∀ child ∈ tree.children parent,
          ¬ (tree.addChild parent (tree.inherit parent inherits element)).isNamed child
            element.name = true := by
        intro child hchild
        rw [isNamed_eq, name?_addChild_of_lt (h.child parent child hchild).2, ← isNamed_eq]
        exact List.find?_eq_none.1 hfind child hchild
      have hnew : (tree.addChild parent (tree.inherit parent inherits element)).isNamed tree.size
          element.name = true := by
        rw [isNamed_eq, name?_addChild_size, name_inherit]
        exact beq_self_eq_true element.name
      rw [Tree.findChild?, children_addChild _ hparent, if_pos rfl, List.find?_append,
        List.find?_eq_none.2 hold, Option.none_or, List.find?_singleton, if_pos hnew]

end Tree

end DeclAtlas
