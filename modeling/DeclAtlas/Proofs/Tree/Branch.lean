import Mathlib
import DeclAtlas.Proofs.Tree.WellFormed
import DeclAtlas.Tree.Branch

/-!
# Branches of well-formed trees

Branches and lineages are computed with a bound on their length.  In a well-formed tree the numbers
grow downwards, so the bound is never reached: a branch is its top node with the branches of the
nodes below it (`WellFormed.branch_eq`), and the lineage of a node is the node followed by the
lineage of the node above it (`WellFormed.lineage_of_mem_children`).

Every walk over a tree is a pre-order of some of its links (`IsPreorder`).  It visits what these
links lead to (`IsPreorder.mem_iff`), each node once (`IsPreorder.nodup`).  The walk over all links
visits everything at and below a node without interruption (`WellFormed.exists_descendants_eq`).
-/

namespace DeclAtlas

/-- The nodes of branches are those of each branch, one branch after the other. -/
theorem Branch.idsOfAll_eq (branches : List Branch) :
    Branch.idsOfAll branches = branches.flatMap Branch.ids := by
  induction branches with
  | nil => rfl
  | cons branch branches ih => rw [Branch.idsOfAll, ih, List.flatMap_cons]

namespace Tree

variable {tree : Tree}

/-! ## Links -/

/-- A number behind the last node has no parent. -/
theorem parent?_of_size_le {id : Nat} (h : tree.size ≤ id) : tree.parent? id = none := by
  rw [parent?, node?_eq_none_iff.2 h, Option.bind_none]

/-- The two ways in which links are stored agree. -/
theorem WellFormed.mem_children_iff (h : tree.WellFormed) {id child : Nat} :
    child ∈ tree.children id ↔ tree.parent? child = some id := by
  constructor
  · intro hchild
    obtain ⟨hpos, hlt⟩ := h.child id child hchild
    by_contra hparent
    have hcount := h.count child id hpos hlt
    rw [if_neg hparent] at hcount
    exact List.count_eq_zero.1 hcount hchild
  · intro hparent
    have hlt : child < tree.size := by
      by_contra hle
      rw [parent?_of_size_le (Nat.le_of_not_lt hle)] at hparent
      cases hparent
    have hpos : 0 < child := by
      rcases Nat.eq_zero_or_pos child with rfl | hpos
      · cases h.root_parent.symm.trans hparent
      · exact hpos
    have hcount := h.count child id hpos hlt
    rw [if_pos hparent] at hcount
    exact List.count_pos_iff.1 (hcount ▸ Nat.one_pos)

/-- A child has a larger number than its parent. -/
theorem WellFormed.lt_of_mem_children (h : tree.WellFormed) {id child : Nat}
    (hchild : child ∈ tree.children id) : id < child := by
  obtain ⟨hpos, hlt⟩ := h.child id child hchild
  obtain ⟨above, habove, hparent⟩ := h.parent child hpos hlt
  cases hparent.symm.trans (h.mem_children_iff.1 hchild)
  exact habove

/-- A child is a node of the tree. -/
theorem WellFormed.lt_size_of_mem_children (h : tree.WellFormed) {id child : Nat}
    (hchild : child ∈ tree.children id) : child < tree.size :=
  (h.child id child hchild).2

/-- No node is the child of two nodes. -/
theorem WellFormed.parent_unique (h : tree.WellFormed) {id id' child : Nat}
    (hchild : child ∈ tree.children id) (hchild' : child ∈ tree.children id') : id = id' :=
  Option.some.inj ((h.mem_children_iff.1 hchild).symm.trans (h.mem_children_iff.1 hchild'))

/-- No node is twice the child of another. -/
theorem WellFormed.nodup_children (h : tree.WellFormed) (id : NodeId) : (tree.children id).Nodup :=
  (h.sorted id).imp fun hlt => Nat.ne_of_lt hlt

/-- Every node but the root is below another one. -/
theorem WellFormed.exists_mem_children (h : tree.WellFormed) {id : Nat} (hid : id < tree.size)
    (hroot : id ≠ root) : ∃ above, id ∈ tree.children above := by
  obtain ⟨above, -, hparent⟩ := h.parent id (Nat.pos_of_ne_zero hroot) hid
  exact ⟨above, h.mem_children_iff.2 hparent⟩

/-- Induction from the leaves upwards. -/
theorem WellFormed.induction_up (h : tree.WellFormed) {motive : Nat → Prop}
    (step : ∀ id : Nat, (∀ child : Nat, child ∈ tree.children id → motive child) → motive id)
    (id : Nat) : motive id := by
  -- the distance to the end of the numbers shrinks downwards
  induction hn : tree.size - id using Nat.strong_induction_on generalizing id with
  | _ n ih =>
      refine step id fun child hchild => ih (tree.size - child) ?_ child rfl
      have hlt := h.lt_of_mem_children hchild
      have hsize := h.lt_size_of_mem_children hchild
      omega

/-- Induction from the root downwards. -/
theorem WellFormed.induction_down (h : tree.WellFormed) {motive : Nat → Prop}
    (top : motive root)
    (step : ∀ id child : Nat, child ∈ tree.children id → motive id → motive child) :
    ∀ id < tree.size, motive id := by
  intro id
  induction id using Nat.strong_induction_on with
  | _ id ih =>
      intro hid
      by_cases hroot : id = root
      · exact hroot ▸ top
      · obtain ⟨above, hchild⟩ := h.exists_mem_children hid hroot
        have hlt := h.lt_of_mem_children hchild
        exact step above id hchild (ih above hlt (Nat.lt_trans hlt hid))

/-! ## Branches -/

/-- More levels than there are nodes below do not change a branch. -/
theorem WellFormed.branchTo_congr (h : tree.WellFormed) {id : Nat} {m n : Nat}
    (hm : tree.size ≤ id + m) (hn : tree.size ≤ id + n) :
    tree.branchTo m id = tree.branchTo n id := by
  induction m generalizing id n with
  | zero =>
      cases n with
      | zero => rfl
      | succ n =>
          rw [Nat.add_zero] at hm
          rw [branchTo, branchTo, children_of_size_le hm, List.map_nil]
  | succ m ih =>
      cases n with
      | zero =>
          rw [Nat.add_zero] at hn
          rw [branchTo, branchTo, children_of_size_le hn, List.map_nil]
      | succ n =>
          have hbelow : (tree.children id).map (tree.branchTo m) =
              (tree.children id).map (tree.branchTo n) := by
            refine List.map_congr_left fun (child : Nat) hchild => ?_
            have hlt := h.lt_of_mem_children hchild
            exact ih (by omega) (by omega)
          rw [branchTo, branchTo, hbelow]

/-- A branch is its top node with the branches of the nodes below it. -/
theorem WellFormed.branch_eq (h : tree.WellFormed) (id : Nat) :
    tree.branch id =
      .node id (tree.label id) (tree.element? id) ((tree.children id).map tree.branch) := by
  obtain ⟨n, hn⟩ := Nat.exists_eq_succ_of_ne_zero (Nat.ne_of_gt h.size_pos)
  have hbelow : (tree.children id).map (tree.branchTo n) =
      (tree.children id).map tree.branch := by
    refine List.map_congr_left fun (child : Nat) hchild => ?_
    have hlt := h.lt_of_mem_children hchild
    exact h.branchTo_congr (by omega) (by omega)
  rw [branch, hn, branchTo, hbelow]

/-- The branches below a branch are those of the children. -/
theorem WellFormed.children_branch (h : tree.WellFormed) (id : NodeId) :
    (tree.branch id).children = (tree.children id).map tree.branch := by
  rw [h.branch_eq]
  rfl

/-- A branch starts at its node, however far it reaches. -/
@[simp] theorem id_branchTo (levels : Nat) (id : NodeId) : (tree.branchTo levels id).id = id := by
  cases levels <;> rfl

/-- A branch has the label of its node, however far it reaches. -/
@[simp] theorem label_branchTo (levels : Nat) (id : NodeId) :
    (tree.branchTo levels id).label = tree.label id := by
  cases levels <;> rfl

/-- A branch has the element of its node, however far it reaches. -/
@[simp] theorem element_branchTo (levels : Nat) (id : NodeId) :
    (tree.branchTo levels id).element = tree.element? id := by
  cases levels <;> rfl

/-- A branch starts at its node. -/
@[simp] theorem id_branch (id : NodeId) : (tree.branch id).id = id :=
  id_branchTo _ _

/-- A branch has the label of its node. -/
@[simp] theorem label_branch (id : NodeId) : (tree.branch id).label = tree.label id :=
  label_branchTo _ _

/-- A branch has the element of its node. -/
@[simp] theorem element_branch (id : NodeId) : (tree.branch id).element = tree.element? id :=
  element_branchTo _ _

/-! ## Lineages -/

/-- The node above a node is older. -/
theorem WellFormed.lt_of_parent? (h : tree.WellFormed) {id above : Nat}
    (hparent : tree.parent? id = some above) : above < id :=
  h.lt_of_mem_children (h.mem_children_iff.2 hparent)

/-- More steps than there are nodes above do not change a lineage. -/
theorem WellFormed.lineageTo_congr (h : tree.WellFormed) {id m n : Nat} (hm : id < m)
    (hn : id < n) : tree.lineageTo m id = tree.lineageTo n id := by
  induction m generalizing id n with
  | zero => exact absurd hm (Nat.not_lt_zero id)
  | succ m ih =>
      obtain ⟨n, rfl⟩ := Nat.exists_eq_succ_of_ne_zero (Nat.ne_of_gt (Nat.zero_lt_of_lt hn))
      rw [lineageTo, lineageTo]
      rcases hparent : tree.parent? id with _ | above
      · rfl
      · have hlt := h.lt_of_parent? hparent
        exact congrArg (id :: ·) (ih (by omega) (by omega))

/-- Lineages are read off the nodes above. -/
theorem lineage_congr {a b : Tree} (hsize : a.size = b.size)
    (hparent : ∀ id, a.parent? id = b.parent? id) (id : NodeId) : a.lineage id = b.lineage id := by
  have hto (n : Nat) : ∀ id, a.lineageTo n id = b.lineageTo n id := by
    induction n with
    | zero => exact fun _ => rfl
    | succ n ih =>
        intro id
        rw [lineageTo, lineageTo, hparent]
        rcases b.parent? id with _ | above
        · rfl
        · exact congrArg (id :: ·) (ih above)
  rw [lineage, lineage, hsize, hto]

/-- A node is in its own lineage. -/
theorem WellFormed.self_mem_lineage (h : tree.WellFormed) (id : NodeId) : id ∈ tree.lineage id := by
  obtain ⟨n, hn⟩ := Nat.exists_eq_succ_of_ne_zero (Nat.ne_of_gt h.size_pos)
  rw [lineage, hn, lineageTo]
  exact List.mem_cons_self

/-- There is nothing above the root. -/
theorem WellFormed.lineage_root (h : tree.WellFormed) : tree.lineage root = [root] := by
  obtain ⟨n, hn⟩ := Nat.exists_eq_succ_of_ne_zero (Nat.ne_of_gt h.size_pos)
  rw [lineage, hn, lineageTo, h.root_parent]

/-- A lineage goes on with that of the node above. -/
theorem WellFormed.lineage_of_mem_children (h : tree.WellFormed) {id child : Nat}
    (hchild : child ∈ tree.children id) : tree.lineage child = child :: tree.lineage id := by
  obtain ⟨n, hn⟩ := Nat.exists_eq_succ_of_ne_zero (Nat.ne_of_gt h.size_pos)
  have hlt := h.lt_of_mem_children hchild
  have hsize := h.lt_size_of_mem_children hchild
  rw [lineage, lineage, hn, lineageTo, h.mem_children_iff.1 hchild]
  exact congrArg (child :: ·) (h.lineageTo_congr (by omega) (by omega))

/-- A lineage holds no node that is younger than the one it starts from. -/
theorem WellFormed.le_of_mem_lineage (h : tree.WellFormed) {id : Nat} (hid : id < tree.size)
    {above : Nat} (habove : above ∈ tree.lineage id) : above ≤ id := by
  refine h.induction_down (motive := fun id => ∀ above ∈ tree.lineage id, above ≤ id) ?_ ?_ id hid
    above habove
  · intro above habove
    rw [h.lineage_root, List.mem_singleton] at habove
    exact Nat.le_of_eq habove
  · intro id child hchild ih above habove
    rw [h.lineage_of_mem_children hchild] at habove
    rcases List.mem_cons.1 habove with rfl | habove
    · exact Nat.le_refl _
    · exact Nat.le_trans (ih above habove) (Nat.le_of_lt (h.lt_of_mem_children hchild))

/-- A node is the first one of its lineage, and older nodes follow. -/
theorem WellFormed.exists_lineage (h : tree.WellFormed) {id : Nat} (hid : id < tree.size) :
    ∃ above : List NodeId, tree.lineage id = id :: above ∧ ∀ node ∈ above, node < id := by
  by_cases hroot : id = root
  · subst hroot
    exact ⟨[], h.lineage_root, fun _ hnode => absurd hnode List.not_mem_nil⟩
  · obtain ⟨above, hchild⟩ := h.exists_mem_children hid hroot
    have hlt := h.lt_of_mem_children hchild
    refine ⟨_, h.lineage_of_mem_children hchild, fun node hnode => ?_⟩
    exact Nat.lt_of_le_of_lt (h.le_of_mem_lineage (Nat.lt_trans hlt hid) hnode) hlt

/-- The nodes above a node are those of its lineage, the node left out. -/
theorem WellFormed.mem_tail_lineage_iff (h : tree.WellFormed) {top id : Nat}
    (hid : id < tree.size) : top ∈ (tree.lineage id).tail ↔ top ∈ tree.lineage id ∧ top ≠ id := by
  obtain ⟨above, heq, hlt⟩ := h.exists_lineage hid
  rw [heq, List.tail_cons, List.mem_cons]
  constructor
  · intro htop
    exact ⟨.inr htop, Nat.ne_of_lt (hlt top htop)⟩
  · rintro ⟨htop, hne⟩
    exact htop.resolve_left hne

/-- Going up leads to no larger number. -/
theorem WellFormed.le_of_reaches_up (h : tree.WellFormed) {id above : Nat}
    (hreach : Relation.ReflTransGen
      (fun below above : NodeId => below ∈ tree.children above) id above) : above ≤ id := by
  induction hreach with
  | refl => exact Nat.le_refl _
  | tail _ hlink ih => exact Nat.le_trans (Nat.le_of_lt (h.lt_of_mem_children hlink)) ih

/-- Of two nodes below the same node neither is above the other. -/
theorem WellFormed.eq_of_reaches_up (h : tree.WellFormed) {id a b : Nat} (ha : a ∈ tree.children id)
    (hb : b ∈ tree.children id) (hreach : Relation.ReflTransGen
      (fun below above : NodeId => below ∈ tree.children above) a b) : a = b := by
  rcases hreach.cases_head with heq | ⟨above, habove, hreach⟩
  · exact heq
  · cases h.parent_unique ha habove
    exact absurd (h.le_of_reaches_up hreach) (Nat.not_le.2 (h.lt_of_mem_children hb))

/-! ## Pre-orders -/

/-- `order` lists each node before everything that the links `next` lead to from it, one link after
the other. -/
def IsPreorder (next order : NodeId → List NodeId) : Prop :=
  ∀ id, order id = id :: (next id).flatMap order

namespace IsPreorder

variable {next order : NodeId → List NodeId}

/-- A pre-order visits what its links lead to. -/
theorem mem_iff (horder : IsPreorder next order) (h : tree.WellFormed)
    (hnext : ∀ id, next id ⊆ tree.children id) {id x : NodeId} :
    x ∈ order id ↔ Relation.ReflTransGen (fun above below => below ∈ next above) id x := by
  constructor
  · refine h.induction_up
      (motive := fun id => x ∈ order id → Relation.ReflTransGen _ id x) (fun id ih hx => ?_) id
    rw [horder, List.mem_cons, List.mem_flatMap] at hx
    rcases hx with rfl | ⟨child, hchild, hx⟩
    · exact .refl
    · exact .head hchild (ih child (hnext id hchild) hx)
  · intro hreach
    induction hreach using Relation.ReflTransGen.head_induction_on with
    | refl =>
        rw [horder]
        exact List.mem_cons_self
    | head hchild _ ih =>
        rw [horder, List.mem_cons, List.mem_flatMap]
        exact .inr ⟨_, hchild, ih⟩

/-- Behind the first node, a pre-order visits what is linked from a visited node. -/
theorem mem_iff_of_mem_children (horder : IsPreorder next order) (h : tree.WellFormed)
    (hnext : ∀ id, next id ⊆ tree.children id) {id above x : NodeId}
    (hx : x ∈ tree.children above) (hne : x ≠ id) :
    x ∈ order id ↔ above ∈ order id ∧ x ∈ next above := by
  rw [horder.mem_iff h hnext, horder.mem_iff h hnext]
  constructor
  · intro hreach
    rcases hreach.cases_tail with rfl | ⟨y, hy, hlink⟩
    · exact absurd rfl hne
    · cases h.parent_unique hx (hnext y hlink)
      exact ⟨hy, hlink⟩
  · rintro ⟨hreach, hlink⟩
    exact hreach.tail hlink

/-- From what a pre-order visits the way leads back upwards. -/
theorem reaches_up (horder : IsPreorder next order) (h : tree.WellFormed)
    (hnext : ∀ id, next id ⊆ tree.children id) {id x : NodeId} (hx : x ∈ order id) :
    Relation.ReflTransGen (fun below above : NodeId => below ∈ tree.children above) x id := by
  have hreach := (horder.mem_iff h hnext).1 hx
  clear hx
  induction hreach with
  | refl => exact .refl
  | tail _ hlink ih => exact .head (hnext _ hlink) ih

/-- Different nodes below one node lead to different nodes: everything has one node above it. -/
theorem disjoint (horder : IsPreorder next order) (h : tree.WellFormed)
    (hnext : ∀ id, next id ⊆ tree.children id) {id a b : NodeId} (ha : a ∈ tree.children id)
    (hb : b ∈ tree.children id) (hne : a ≠ b) : (order a).Disjoint (order b) := by
  intro x hxa hxb
  -- of two nodes above `x` one is above the other, which siblings are not
  have hunique : Relator.RightUnique fun below above : NodeId => below ∈ tree.children above :=
    fun _ _ _ h₁ h₂ => h.parent_unique h₁ h₂
  rcases Relation.ReflTransGen.total_of_right_unique hunique (horder.reaches_up h hnext hxa)
    (horder.reaches_up h hnext hxb) with hreach | hreach
  · exact hne (h.eq_of_reaches_up ha hb hreach)
  · exact hne (h.eq_of_reaches_up hb ha hreach).symm

/-- A pre-order visits no node twice. -/
theorem nodup (horder : IsPreorder next order) (h : tree.WellFormed)
    (hnext : ∀ id, (next id).Sublist (tree.children id)) (id : NodeId) : (order id).Nodup := by
  have hsubset (id : NodeId) : next id ⊆ tree.children id := (hnext id).subset
  refine h.induction_up (motive := fun id => (order id).Nodup) (fun id ih => ?_) id
  rw [horder, List.nodup_cons, List.mem_flatMap, List.nodup_flatMap]
  refine ⟨?_, fun child hchild => ih child (hsubset id hchild), ?_⟩
  · rintro ⟨child, hchild, hmem⟩
    have hle := h.le_of_reaches_up (horder.reaches_up h hsubset hmem)
    exact Nat.not_lt.2 hle (h.lt_of_mem_children (hsubset id hchild))
  · refine ((h.nodup_children id).sublist (hnext id)).imp_of_mem fun {a b} ha hb hne => ?_
    exact horder.disjoint h hsubset (hsubset id ha) (hsubset id hb) hne

/-- What comes next to the nodes of a pre-order are its nodes behind the first one. -/
theorem perm_tail (horder : IsPreorder next order) (h : tree.WellFormed)
    (hnext : ∀ id, next id ⊆ tree.children id) (id : NodeId) :
    ((order id).flatMap next).Perm (order id).tail := by
  refine h.induction_up (motive := fun id => ((order id).flatMap next).Perm (order id).tail)
    (fun id ih => ?_) id
  have hbelow : ((next id).flatMap fun child => (order child).flatMap next).Perm
      ((next id).flatMap fun child => (order child).tail) :=
    List.Perm.flatMap_left _ fun child hchild => ih child (hnext id hchild)
  have hsplit : (next id).flatMap order =
      (next id).flatMap fun child => [child] ++ (order child).tail := by
    refine List.flatMap_congr fun child _ => ?_
    rw [horder child]
    rfl
  rw [horder id, List.flatMap_cons, List.flatMap_assoc, List.tail_cons, hsplit]
  refine (hbelow.append_left (next id)).trans ?_
  have hperm := List.flatMap_append_perm (next id) (fun child => [child])
    fun child => (order child).tail
  rwa [List.flatMap_singleton'] at hperm

end IsPreorder

/-! ## Descendants -/

/-- The nodes of a branch stand in the pre-order of all links. -/
theorem WellFormed.isPreorder_descendants (h : tree.WellFormed) :
    IsPreorder tree.children tree.descendants := by
  intro id
  rw [descendants, h.branch_eq, Branch.ids, Branch.idsOfAll_eq, List.flatMap_map]
  rfl

/-- Every node is below the root. -/
theorem WellFormed.mem_descendants_root (h : tree.WellFormed) :
    ∀ id < tree.size, id ∈ tree.descendants root := by
  refine h.induction_down ?_ fun id child hchild ih => ?_
  · rw [h.isPreorder_descendants]
    exact List.mem_cons_self
  · have hne : child ≠ root := Nat.ne_of_gt (h.child id child hchild).1
    rw [h.isPreorder_descendants.mem_iff_of_mem_children h (fun _ => List.Subset.refl _) hchild hne]
    exact ⟨ih, hchild⟩

/-- The nodes at and below a node are those with the node in their lineage. -/
theorem WellFormed.mem_descendants_iff (h : tree.WellFormed) {top : NodeId} :
    ∀ id < tree.size, id ∈ tree.descendants top ↔ top ∈ tree.lineage id := by
  have horder := h.isPreorder_descendants
  have hsubset (id : NodeId) : tree.children id ⊆ tree.children id := List.Subset.refl _
  refine h.induction_down ?_ fun above id hid ih => ?_
  · rw [h.lineage_root, List.mem_singleton, horder.mem_iff h hsubset]
    constructor
    · intro hreach
      rcases hreach.cases_tail with heq | ⟨_, -, hlink⟩
      · exact heq.symm
      · exact absurd (h.child _ _ hlink).1 (Nat.lt_irrefl 0)
    · rintro rfl
      exact .refl
  · rw [h.lineage_of_mem_children hid, List.mem_cons]
    by_cases hne : id = top
    · subst hne
      rw [horder]
      exact iff_of_true List.mem_cons_self (.inl rfl)
    · rw [horder.mem_iff_of_mem_children h hsubset hid hne, ih]
      exact ⟨fun habove => .inr habove.1, fun habove => ⟨habove.resolve_left (Ne.symm hne), hid⟩⟩

/-- A node is below another exactly if the other is above it. -/
theorem WellFormed.mem_tail_descendants_iff (h : tree.WellFormed) {top id : NodeId}
    (hid : id < tree.size) :
    id ∈ (tree.descendants top).tail ↔ top ∈ (tree.lineage id).tail := by
  have horder := h.isPreorder_descendants
  have hnodup := horder.nodup h (fun _ => List.Sublist.refl _) top
  have hmem : id ∈ tree.descendants top ↔ top ∈ tree.lineage id := h.mem_descendants_iff id hid
  rw [horder] at hnodup hmem
  rw [h.mem_tail_lineage_iff hid, ← hmem, horder, List.tail_cons, List.mem_cons]
  constructor
  · intro htail
    refine ⟨.inr htail, ?_⟩
    rintro rfl
    exact (List.nodup_cons.1 hnodup).1 htail
  · rintro ⟨hid, hne⟩
    exact hid.resolve_left (Ne.symm hne)

/-- The descendants of a node are nodes of the tree. -/
theorem WellFormed.lt_size_of_mem_descendants (h : tree.WellFormed) {top id : Nat}
    (htop : top < tree.size) (hid : id ∈ tree.descendants top) : id < tree.size := by
  have hreach := (h.isPreorder_descendants.mem_iff h fun _ => List.Subset.refl _).1 hid
  rcases hreach.cases_tail with rfl | ⟨above, -, hlink⟩
  · exact htop
  · exact h.lt_size_of_mem_children hlink

/-- Every descendant is listed once. -/
theorem WellFormed.nodup_descendants (h : tree.WellFormed) (id : NodeId) :
    (tree.descendants id).Nodup :=
  h.isPreorder_descendants.nodup h (fun _ => List.Sublist.refl _) id

/-- The nodes at and below a node stand together in the pre-order of everything around it. -/
theorem WellFormed.exists_descendants_eq (h : tree.WellFormed) {top id : NodeId}
    (hid : id ∈ tree.descendants top) :
    ∃ front back, tree.descendants top = front ++ tree.descendants id ++ back := by
  have horder := h.isPreorder_descendants
  have hreach := (horder.mem_iff h fun _ => List.Subset.refl _).1 hid
  clear hid
  induction hreach with
  | refl => exact ⟨[], [], by rw [List.nil_append, List.append_nil]⟩
  | @tail above id _ hlink ih =>
      obtain ⟨front, back, htop⟩ := ih
      obtain ⟨before, behind, hchildren⟩ := List.append_of_mem hlink
      refine ⟨front ++ above :: before.flatMap tree.descendants,
        behind.flatMap tree.descendants ++ back, ?_⟩
      rw [htop, horder above, hchildren, List.flatMap_append, List.flatMap_cons]
      simp only [List.append_assoc, List.cons_append]

/-! ## Depths -/

/-- The number of nodes above a node. -/
def depth (tree : Tree) (id : NodeId) : Nat :=
  (tree.lineage id).tail.length

/-- The root is at depth zero. -/
theorem WellFormed.depth_root (h : tree.WellFormed) : tree.depth root = 0 := by
  rw [depth, h.lineage_root]
  rfl

/-- A child is one step deeper than its parent. -/
theorem WellFormed.depth_of_mem_children (h : tree.WellFormed) {id child : Nat}
    (hchild : child ∈ tree.children id) : tree.depth child = tree.depth id + 1 := by
  have hpos := List.length_pos_of_mem (h.self_mem_lineage id)
  rw [depth, h.lineage_of_mem_children hchild, List.tail_cons, depth, List.length_tail]
  omega

/-- Every node but the root is below another one. -/
theorem WellFormed.depth_pos (h : tree.WellFormed) {id : Nat} (hid : id < tree.size)
    (hroot : id ≠ root) : 0 < tree.depth id := by
  obtain ⟨above, hchild⟩ := h.exists_mem_children hid hroot
  rw [h.depth_of_mem_children hchild]
  exact Nat.succ_pos _

end Tree

end DeclAtlas
