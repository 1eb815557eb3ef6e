import Mathlib
import DeclAtlas.Proofs.Tree.WellFormed
import DeclAtlas.Tree.Branch

/-!
# Planting a forest

A forest is a list of elements, each with a forest below it.  Planting it below a node of a tree
adds its elements one by one, each before what is below it: the order in which a source declares
them.

**Theorem** (`map_branchTo_plant`): the branches at the planted nodes are the forest.

A node is `Ready` for a forest if no name of the forest is taken below it and names do not repeat
inside the forest.  Then each declaration of the forest adds a node (`Ready.declare`), and the node
and its parent are ready for what comes next (`Ready.below`, `Ready.rest`).
-/

namespace DeclAtlas

/-- A list of elements, each with the elements below it. -/
inductive Forest where
  | nil
  | cons (element : Element) (below rest : Forest)

namespace Forest

/-- The number of elements. -/
def size : Forest → Nat
  | nil => 0
  | cons _ below rest => 1 + below.size + rest.size

/-- The names on the top level. -/
def names : Forest → List Text
  | nil => []
  | cons element _ rest => element.name :: rest.names

/-- One forest behind the other. -/
def append : Forest → Forest → Forest
  | nil, g => g
  | cons element below rest, g => cons element below (rest.append g)

/-- The elements with nothing below them. -/
def ofList : List Element → Forest
  | [] => nil
  | element :: elements => cons element nil (ofList elements)

/-- Siblings have different names, on every level. -/
def Distinct : Forest → Prop
  | nil => True
  | cons element below rest => element.name ∉ rest.names ∧ below.Distinct ∧ rest.Distinct

instance decidableDistinct : (f : Forest) → Decidable f.Distinct
  | nil => isTrue trivial
  | cons element below rest =>
    have := decidableDistinct below
    have := decidableDistinct rest
    inferInstanceAs (Decidable (element.name ∉ rest.names ∧ below.Distinct ∧ rest.Distinct))

/-- The numbers of the top nodes, if the first one has the number `next`. -/
def roots (next : Nat) : Forest → List NodeId
  | nil => []
  | cons _ below rest => next :: rest.roots (next + 1 + below.size)

/-- The forest as branches with nodes numbered from `next` on. -/
def branches (next : Nat) : Forest → List Branch
  | nil => []
  | cons element below rest =>
    .node next element.displayName (some element) (below.branches (next + 1)) ::
      rest.branches (next + 1 + below.size)

/-- The names of two forests are those of the first one and then those of the second one. -/
@[simp] theorem names_append (f g : Forest) : (f.append g).names = f.names ++ g.names := by
  induction f with
  | nil => rfl
  | cons element below rest _ ih => simp [append, names, ih]

/-- Two parts of a forest with different names have no names in common. -/
theorem Distinct.of_append {f g : Forest} (h : (f.append g).Distinct) :
    f.Distinct ∧ g.Distinct ∧ ∀ name ∈ f.names, name ∉ g.names := by
  induction f with
  | nil => exact ⟨trivial, h, fun _ hname => absurd hname List.not_mem_nil⟩
  | cons element below rest _ ih =>
      obtain ⟨hname, hbelow, hrest⟩ := h
      obtain ⟨hf, hg, hdisjoint⟩ := ih hrest
      rw [names_append, List.mem_append, not_or] at hname
      refine ⟨⟨hname.1, hbelow, hf⟩, hg, ?_⟩
      intro name hmem
      rcases List.mem_cons.1 hmem with rfl | hmem
      · exact hname.2
      · exact hdisjoint name hmem

end Forest

namespace Tree

/-- Adds a forest below a node. -/
def plant (tree : Tree) (parent : Nat) : Forest → Tree
  | .nil => tree
  | .cons element below rest =>
    ((tree.addChild parent element).plant tree.size below).plant parent rest

/-- Two forests may be planted one after the other. -/
theorem plant_append (tree : Tree) (parent : Nat) (f g : Forest) :
    tree.plant parent (f.append g) = (tree.plant parent f).plant parent g := by
  induction f generalizing tree with
  | nil => rfl
  | cons element below rest _ ih => exact ih _

/-- A forest adds as many nodes as it has elements. -/
@[simp] theorem size_plant (tree : Tree) (parent : Nat) (f : Forest) :
    (tree.plant parent f).size = tree.size + f.size := by
  induction f generalizing tree parent with
  | nil => rfl
  | cons element below rest ihbelow ihrest =>
      rw [plant, ihrest, ihbelow, size_addChild, Forest.size]
      omega

/-- Of the nodes that were there, only the parent changes: it gets new children. -/
theorem node?_plant {tree : Tree} {parent : Nat} (hparent : parent < tree.size) (f : Forest)
    {id : Nat} (hid : id < tree.size) :
    (tree.plant parent f).node? id =
      if id = parent then
        (tree.node? id).map fun node =>
          { node with children := node.children ++ f.roots tree.size }
      else tree.node? id := by
  induction f generalizing tree parent id with
  | nil =>
      split_ifs
      · simp [plant, Forest.roots]
      · rfl
  | cons element below rest ihbelow ihrest =>
      have hnew : tree.size < (tree.addChild parent element).size := by
        rw [size_addChild]
        exact Nat.lt_succ_self _
      have hbelow : ((tree.addChild parent element).plant tree.size below).node? id =
          (tree.addChild parent element).node? id := by
        rw [ihbelow hnew (hid.trans hnew), if_neg (Nat.ne_of_lt hid)]
      have hsize : ((tree.addChild parent element).plant tree.size below).size =
          tree.size + 1 + below.size := by rw [size_plant, size_addChild]
      have hlt : ∀ n, n < tree.size →
          n < ((tree.addChild parent element).plant tree.size below).size := by
        intro n hn
        rw [hsize]
        omega
      rw [plant, ihrest (hlt parent hparent) (hlt id hid), hbelow, node?_addChild,
        if_neg (Nat.ne_of_lt hid), hsize]
      split_ifs
      · simp [Forest.roots, Function.comp_def]
      · rfl

section plant

variable {tree : Tree} {parent : Nat} (hparent : parent < tree.size) (f : Forest)

include hparent

/-- Planting a forest changes no other element. -/
theorem element?_plant {id : Nat} (hid : id < tree.size) :
    (tree.plant parent f).element? id = tree.element? id := by
  rw [element?, node?_plant hparent f hid, element?]
  split_ifs
  · cases tree.node? id <;> rfl
  · rfl

/-- Planting a forest changes no other label. -/
theorem label_plant {id : Nat} (hid : id < tree.size) :
    (tree.plant parent f).label id = tree.label id := by
  rw [label, node?_plant hparent f hid, label]
  split_ifs
  · cases tree.node? id <;> rfl
  · rfl

/-- The top nodes of a forest are the last children of their parent. -/
theorem children_plant :
    (tree.plant parent f).children parent = tree.children parent ++ f.roots tree.size := by
  rw [children, node?_plant hparent f hparent, if_pos rfl, children]
  obtain ⟨node, hnode⟩ : ∃ node, tree.node? parent = some node := by
    rw [← Option.isSome_iff_exists, Option.isSome_iff_ne_none, ne_eq, node?_eq_none_iff]
    omega
  rw [hnode]
  rfl

end plant

/-- The node of a new element, with what is planted below it. -/
theorem node?_plant_addChild (tree : Tree) (parent : Nat) (element : Element) (below : Forest) :
    ((tree.addChild parent element).plant tree.size below).node? tree.size =
      some { label := element.displayName, element := some element, parent := some parent,
             children := below.roots (tree.size + 1) } := by
  have hnew : tree.size < (tree.addChild parent element).size := by
    rw [size_addChild]
    exact Nat.lt_succ_self _
  rw [node?_plant hnew below hnew, if_pos rfl, node?_addChild, if_pos rfl, size_addChild]
  rfl

/-- The branches at the planted nodes are the forest.  The tree in which they are looked at may
have grown further, as long as the planted nodes are the same in it. -/
theorem map_branchTo_plant {tree : Tree} {parent : Nat} (hparent : parent < tree.size)
    {f : Forest} {grown : Tree}
    (hgrown : ∀ id, tree.size ≤ id → id < tree.size + f.size →
      grown.node? id = (tree.plant parent f).node? id)
    {levels : Nat} (hlevels : f.size ≤ levels) :
    (f.roots tree.size).map (grown.branchTo levels) = f.branches tree.size := by
  induction f generalizing tree parent levels with
  | nil => rfl
  | cons element below rest ihbelow ihrest =>
      have hnew : tree.size < (tree.addChild parent element).size := by
        rw [size_addChild]
        exact Nat.lt_succ_self _
      have hsize : ((tree.addChild parent element).plant tree.size below).size =
          tree.size + 1 + below.size := by rw [size_plant, size_addChild]
      have hparent' : parent < ((tree.addChild parent element).plant tree.size below).size := by
        rw [hsize]
        omega
      rw [Forest.size] at hgrown hlevels
      -- planting the rest leaves the new node and the nodes below it alone
      have hfirst : ∀ id, tree.size ≤ id → id < tree.size + 1 + below.size →
          grown.node? id = ((tree.addChild parent element).plant tree.size below).node? id := by
        intro id hle hlt
        rw [hgrown id hle (by omega), plant, node?_plant hparent' rest (by rw [hsize]; exact hlt),
          if_neg (by omega)]
      have hnode := (hfirst tree.size (Nat.le_refl _) (by omega)).trans
        (node?_plant_addChild tree parent element below)
      have hbelow : (below.roots (tree.size + 1)).map (grown.branchTo (levels - 1)) =
          below.branches (tree.size + 1) := by
        have h := ihbelow hnew
          (fun id hle hlt => hfirst id (by rw [size_addChild] at hle; omega)
            (by rw [size_addChild] at hlt; omega)) (show below.size ≤ levels - 1 by omega)
        rwa [size_addChild] at h
      have hrest : (rest.roots (tree.size + 1 + below.size)).map (grown.branchTo levels) =
          rest.branches (tree.size + 1 + below.size) := by
        have h := ihrest hparent'
          (fun id hle hlt => hgrown id (by rw [hsize] at hle; omega)
            (by rw [hsize] at hlt; omega)) (show rest.size ≤ levels by omega)
        rwa [hsize] at h
      obtain ⟨levels, rfl⟩ : ∃ n, levels = n + 1 := ⟨levels - 1, by omega⟩
      rw [Forest.roots, Forest.branches, List.map_cons, hrest, branchTo, label, element?, children,
        hnode]
      rw [Nat.add_sub_cancel] at hbelow
      simp only [Option.map_some, Option.getD_some, Option.bind_some, hbelow]

/-- A forest that is planted in a tree that has only a root is all there is below the root. -/
theorem branch_plant_ofLabel (label : Text) (f : Forest) :
    ((ofLabel label).plant root f).branch root = .node root label none (f.branches 1) := by
  have hroot : root < (ofLabel label).size := Nat.one_pos
  have hchildren := children_plant hroot f
  rw [children_ofLabel, List.nil_append, size_ofLabel] at hchildren
  have hbranches : (f.roots 1).map (((ofLabel label).plant root f).branchTo f.size) =
      f.branches 1 :=
    map_branchTo_plant hroot (fun _ _ _ => rfl) (Nat.le_refl _)
  rw [branch, size_plant, size_ofLabel, Nat.add_comm, branchTo, label_plant hroot f hroot,
    element?_plant hroot f hroot, element?_ofLabel, hchildren, hbranches]
  rfl

/-! ## Trees that are ready for a forest -/

/-- Nothing is below a new node. -/
theorem children_addChild_size {tree : Tree} {parent : Nat} (hparent : parent < tree.size)
    (element : Element) : (tree.addChild parent element).children tree.size = [] := by
  rw [children_addChild element hparent, if_neg (Nat.ne_of_gt hparent),
    children_of_size_le (Nat.le_refl _)]

/-- A forest can be declared below a node, name by name. -/
structure Ready (tree : Tree) (parent : Nat) (f : Forest) : Prop where
  /-- There is the node. -/
  lt_size : parent < tree.size
  /-- The nodes below it are nodes of the tree. -/
  child_lt : ∀ child : Nat, child ∈ tree.children parent → child < tree.size
  /-- None of them has a name of the forest. -/
  fresh : ∀ child ∈ tree.children parent, ∀ name ∈ f.names, tree.name? child ≠ some name
  /-- The forest does not repeat names. -/
  distinct : f.Distinct

/-- A forest with different names can be declared in a new tree. -/
theorem ready_ofLabel (label : Text) {f : Forest} (h : f.Distinct) :
    (ofLabel label).Ready root f where
  lt_size := by
    rw [size_ofLabel]
    exact Nat.one_pos
  child_lt := by simp
  fresh := by simp
  distinct := h

namespace Ready

variable {tree : Tree} {parent : Nat} {element : Element} {f g : Forest}

/-- The name of the first element is not taken. -/
theorem findChild? (h : tree.Ready parent (.cons element f g)) :
    tree.findChild? parent element.name = none := by
  refine List.find?_eq_none.2 fun child hchild hnamed => ?_
  refine h.fresh child hchild element.name List.mem_cons_self ?_
  rw [isNamed, Option.any_eq_true] at hnamed
  obtain ⟨found, hfound, hname⟩ := hnamed
  rw [name?, hfound, Option.map_some, eq_of_beq hname]

/-- The first declaration of the forest adds a node. -/
theorem declare (h : tree.Ready parent (.cons element f g)) {inherits : Bool}
    {stated : Element} (hinherit : tree.inherit parent inherits stated = element) :
    tree.declare parent inherits stated = (tree.addChild parent element, tree.size) := by
  have hname : stated.name = element.name := by rw [← hinherit, name_inherit]
  rw [declare_of_none (hname ▸ h.findChild?), hinherit]

/-- The new node is ready for what is below it. -/
theorem below (h : tree.Ready parent (.cons element f g)) :
    (tree.addChild parent element).Ready tree.size f := by
  have hnone := children_addChild_size h.lt_size element
  exact {
    lt_size := by rw [size_addChild]; exact Nat.lt_succ_self _
    child_lt := by simp [hnone]
    fresh := by simp [hnone]
    distinct := h.distinct.2.1 }

/-- The parent is ready for the rest. -/
theorem rest (h : tree.Ready parent (.cons element f g)) :
    ((tree.addChild parent element).plant tree.size f).Ready parent g := by
  have hnew := h.below.lt_size
  have hnode : ((tree.addChild parent element).plant tree.size f).node? parent =
      (tree.addChild parent element).node? parent := by
    rw [node?_plant hnew f (h.lt_size.trans hnew), if_neg (Nat.ne_of_lt h.lt_size)]
  have hchildren : ((tree.addChild parent element).plant tree.size f).children parent =
      tree.children parent ++ [tree.size] := by
    have haddChild := children_addChild element h.lt_size parent
    rw [if_pos rfl] at haddChild
    rw [children, hnode, ← haddChild, children]
  have hname : ∀ child : Nat, child < tree.size + 1 →
      ((tree.addChild parent element).plant tree.size f).name? child =
        (tree.addChild parent element).name? child := by
    intro child hchild
    rw [name?, element?_plant hnew f (by rw [size_addChild]; exact hchild), name?]
  refine ⟨?_, ?_, ?_, h.distinct.2.2⟩
  · rw [size_plant]
    exact Nat.lt_add_right _ (h.lt_size.trans hnew)
  · intro child hchild
    rw [hchildren, List.mem_append, List.mem_singleton] at hchild
    rw [size_plant, size_addChild]
    rcases hchild with hchild | rfl
    · have := h.child_lt child hchild
      omega
    · omega
  · intro child hchild name hmem
    rw [hchildren, List.mem_append, List.mem_singleton] at hchild
    rcases hchild with hchild | rfl
    · have hlt := h.child_lt child hchild
      rw [hname child (by omega), name?_addChild_of_lt hlt]
      exact h.fresh child hchild name (List.mem_cons_of_mem _ hmem)
    · rw [hname tree.size (Nat.lt_succ_self _), name?_addChild_size]
      intro heq
      exact h.distinct.1 (Option.some_inj.1 heq ▸ hmem)

/-- Two parts of a forest can be declared one after the other. -/
theorem of_append (h : tree.Ready parent (f.append g)) :
    tree.Ready parent f ∧ (tree.plant parent f).Ready parent g := by
  refine ⟨⟨h.lt_size, h.child_lt, ?_, h.distinct.of_append.1⟩, ?_⟩
  · intro child hchild name hname
    refine h.fresh child hchild name ?_
    rw [Forest.names_append]
    exact List.mem_append_left _ hname
  · induction f generalizing tree with
    | nil => exact h
    | cons element below rest _ ih => exact ih h.rest

end Ready

/-! ## Inheriting -/

section inherit

variable {tree : Tree} {parent : Nat}

/-- The first child has no sibling to take anything from. -/
theorem inherit_of_children_eq_nil (h : tree.children parent = []) (inherits : Bool)
    (element : Element) : tree.inherit parent inherits element = element := by
  have hnone : (if inherits then (tree.lastChild? parent).bind tree.element? else none) = none := by
    rw [lastChild?, h]
    cases inherits <;> rfl
  rw [inherit, hnone]

/-- What inherits takes all but its name, value and documentation from the element before it. -/
theorem inherit_addChild (hparent : parent < tree.size) (element stated : Element) :
    (tree.addChild parent element).inherit parent true stated =
      { element with
        name := stated.name
        defaultValue := stated.defaultValue
        summary := stated.summary
        exportable := false } := by
  have hlast : (tree.addChild parent element).lastChild? parent = some tree.size := by
    rw [lastChild?, children_addChild element hparent, if_pos rfl, List.getLast?_concat]
  have hsibling : (if true then ((tree.addChild parent element).lastChild? parent).bind
      (tree.addChild parent element).element? else none) = some element := by
    rw [if_pos rfl, hlast, Option.bind_some, element?_addChild, if_pos rfl]
  rw [inherit, hsibling]

end inherit

/-! ## Kinds -/

/-- An added child has the kind of its element. -/
theorem kind?_addChild_size (tree : Tree) (parent : Nat) (element : Element) :
    (tree.addChild parent element).kind? tree.size = some element.kind := by
  rw [kind?, element?_addChild, if_pos rfl, Option.map_some]

/-- Adding a child changes no other kind. -/
theorem kind?_addChild_of_lt {tree : Tree} {id : Nat} (hid : id < tree.size) (parent : Nat)
    (element : Element) : (tree.addChild parent element).kind? id = tree.kind? id := by
  rw [kind?, element?_addChild_of_lt hid, kind?]

/-- Planting a forest changes no other kind. -/
theorem kind?_plant {tree : Tree} {parent id : Nat} (hparent : parent < tree.size) (f : Forest)
    (hid : id < tree.size) : (tree.plant parent f).kind? id = tree.kind? id := by
  rw [kind?, element?_plant hparent f hid, kind?]

end Tree

end DeclAtlas
