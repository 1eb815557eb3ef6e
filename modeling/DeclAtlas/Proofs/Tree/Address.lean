import Mathlib
import DeclAtlas.Proofs.Scanner.Growth
import DeclAtlas.Proofs.Tree.Branch
import DeclAtlas.Proofs.Tree.Extension

/-!
# Addresses

The names on the way from the root to a node are its address.  `Tree.path` reads it off on a walk
upwards over parents; `Tree.findPath?` follows it on a walk downwards, on which it takes the first
child with the right name at each step.

**Theorem** (`Tree.Reached.findPath?_path`): in every tree that comes from reading sources the two
walks undo each other.  Every node is found at its address, a node that is found at an address has
it, and so no two nodes share one.

Downwards the first child with a name is the only one, because siblings have different names
(`WellFormed.findChild?_eq_some_iff`).  Upwards the address of a child is that of the node above it
with one name more (`WellFormed.path_of_mem_children`).
-/

namespace DeclAtlas.Tree

variable {tree : Tree} {id child : NodeId} {name : Text}

/-! ## One step -/

/-- What is found by a name has that name. -/
theorem name?_of_findChild? (h : tree.findChild? id name = some child) :
    tree.name? child = some name := by
  have hnamed : tree.isNamed child name = true :=
    List.find?_some (p := fun child => tree.isNamed child name) h
  rw [isNamed_eq] at hnamed
  simpa [Option.any_eq_true] using hnamed

/-- Siblings with the same name are the same. -/
theorem WellFormed.eq_of_name?_eq (h : tree.WellFormed) {a b : NodeId} (ha : a ∈ tree.children id)
    (hb : b ∈ tree.children id) (hname : tree.name? a = tree.name? b) : a = b := by
  have hnodup : ((tree.children id).map tree.name?).Nodup := List.pairwise_map.2 (h.names id)
  exact List.inj_on_of_nodup_map hnodup ha hb hname

/-- A child is found by a name exactly if it has that name: no other child does. -/
theorem WellFormed.findChild?_eq_some_iff (h : tree.WellFormed) :
    tree.findChild? id name = some child ↔
      child ∈ tree.children id ∧ tree.name? child = some name := by
  constructor
  · intro hfind
    exact ⟨List.mem_of_find?_eq_some hfind, name?_of_findChild? hfind⟩
  · rintro ⟨hchild, hname⟩
    rcases hfind : tree.findChild? id name with _ | found
    · exact absurd hname (name?_ne_of_findChild?_eq_none hfind hchild)
    · have hsame : tree.name? found = tree.name? child :=
        (name?_of_findChild? hfind).trans hname.symm
      rw [h.eq_of_name?_eq (List.mem_of_find?_eq_some hfind) hchild hsame]

/-- Every child has a name. -/
theorem WellFormed.exists_name? (h : tree.WellFormed) (hchild : child ∈ tree.children id) :
    ∃ name, tree.name? child = some name := by
  obtain ⟨hpos, hlt⟩ := h.child id child hchild
  obtain ⟨element, helement⟩ := Option.isSome_iff_exists.1 (h.element child hpos hlt)
  exact ⟨element.name, by rw [name?, helement, Option.map_some]⟩

/-! ## The walk upwards -/

/-- The path of a node is made of the names on the way down to it. -/
theorem path_eq (tree : Tree) (id : NodeId) :
    tree.path id = ((tree.lineage id).filterMap tree.name?).reverse :=
  rfl

/-- The path of the root is empty. -/
theorem WellFormed.path_root (h : tree.WellFormed) : tree.path root = [] := by
  have hname : tree.name? root = none := by
    rw [name?, h.root_element, Option.map_none]
  simp [path_eq, h.lineage_root, hname]

/-- The address of a child is that of the node above it with the child's name behind it. -/
theorem WellFormed.path_of_mem_children (h : tree.WellFormed) (hchild : child ∈ tree.children id)
    (hname : tree.name? child = some name) : tree.path child = tree.path id ++ [name] := by
  rw [path_eq, path_eq, h.lineage_of_mem_children hchild, List.filterMap_cons_some hname,
    List.reverse_cons]

/-! ## The walk downwards -/

theorem follow?_cons (tree : Tree) (start : NodeId) (name : Text) (names : List Text) :
    tree.follow? start (name :: names) =
      (tree.findChild? start name).bind fun next => tree.follow? next names :=
  rfl

/-- A path may be followed in two stretches. -/
theorem follow?_append (tree : Tree) (start : NodeId) (front back : List Text) :
    tree.follow? start (front ++ back) =
      (tree.follow? start front).bind fun middle => tree.follow? middle back := by
  induction front generalizing start with
  | nil => rfl
  | cons name front ih =>
      rw [List.cons_append, follow?_cons, follow?_cons, Option.bind_assoc]
      simp only [ih]

/-- What is found from a node has the address of that node with the followed names behind it. -/
theorem WellFormed.path_of_follow? (h : tree.WellFormed) {start : NodeId} {names : List Text}
    (hstart : start < tree.size) (hfollow : tree.follow? start names = some id) :
    id < tree.size ∧ tree.path id = tree.path start ++ names := by
  induction names generalizing start with
  | nil =>
      cases hfollow
      exact ⟨hstart, (List.append_nil _).symm⟩
  | cons name names ih =>
      rw [follow?_cons] at hfollow
      obtain ⟨next, hnext, hrest⟩ := Option.bind_eq_some_iff.1 hfollow
      obtain ⟨hchild, hname⟩ := h.findChild?_eq_some_iff.1 hnext
      obtain ⟨hlt, hpath⟩ := ih (h.lt_size_of_mem_children hchild) hrest
      refine ⟨hlt, ?_⟩
      rw [hpath, h.path_of_mem_children hchild hname, List.append_assoc, List.singleton_append]

/-! ## Both walks -/

/-- Every node is found at its address. -/
theorem WellFormed.findPath?_path_eq (h : tree.WellFormed) :
    ∀ id < tree.size, tree.findPath? (tree.path id) = some id := by
  apply h.induction_down (motive := fun id => tree.findPath? (tree.path id) = some id)
  · rw [h.path_root]
    rfl
  · intro id child hchild ih
    obtain ⟨name, hname⟩ := h.exists_name? hchild
    rw [findPath?] at ih ⊢
    rw [h.path_of_mem_children hchild hname, follow?_append, ih, Option.bind_some, follow?_cons,
      h.findChild?_eq_some_iff.2 ⟨hchild, hname⟩]
    rfl

/-- **Names address nodes.**  Whatever was read into a tree, every node is found at its address, a
node that is found at an address has this address and no other, and different nodes have different
addresses. -/
theorem Reached.findPath?_path (h : tree.Reached) :
    (∀ id < tree.size, tree.findPath? (tree.path id) = some id) ∧
      (∀ (names : List Text) (id : NodeId), tree.findPath? names = some id →
        id < tree.size ∧ tree.path id = names) ∧
      ∀ a < tree.size, ∀ b < tree.size, tree.path a = tree.path b → a = b := by
  have hwf := h.wellFormed_and_unmarked.1
  have hfound := hwf.findPath?_path_eq
  refine ⟨hfound, ?_, ?_⟩
  · intro names id hnames
    have hroot : root < tree.size := hwf.size_pos
    obtain ⟨hlt, hpath⟩ := hwf.path_of_follow? hroot hnames
    rw [hwf.path_root, List.nil_append] at hpath
    exact ⟨hlt, hpath⟩
  · intro a ha b hb hpath
    have hsame : some a = some b := by
      rw [← hfound a ha, hpath, hfound b hb]
    exact Option.some.inj hsame

/-- The second source is read below the class of the first one, whose block is never closed, and
repeats one of its names. -/
theorem findPath?_path_afterTwoSources :
    afterTwoSources.Reached ∧ 5 < afterTwoSources.size ∧
      afterTwoSources.path 5 = ["A", "c"] ∧
      afterTwoSources.findPath? (afterTwoSources.path 5) = some 5 ∧
      afterTwoSources.path 2 = ["A", "M(int x, string y)"] := by
  have hreached : afterTwoSources.Reached :=
    ((Reached.ofLabel _).read root (by decide) _ _).read 1 (by decide +kernel) _ _
  have hlt : 5 < afterTwoSources.size := by decide +kernel
  refine ⟨hreached, hlt, by decide +kernel, hreached.findPath?_path.1 5 hlt, by decide +kernel⟩

end DeclAtlas.Tree
