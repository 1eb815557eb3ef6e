import Mathlib
import DeclAtlas.Browser.Row
import DeclAtlas.Proofs.Tree.Branch

/-!
# The rows of a tree

Rows are collected on a walk down the tree that stops at nodes that are not expanded.  Which nodes
have a row can also be told from the way up: all nodes above them but the root are expanded.

* `WellFormed.rows_eq`: the rows are those of the shown nodes, in the pre-order of the whole tree.
* `WellFormed.exists_rows_eq`: everything at and below a shown node has its rows together, so
  expanding or collapsing a node changes its row and the rows right behind it, and no others.
* `WellFormed.getElem?_rows_congr` and `WellFormed.exists_row_above` say what this means for the
  number of a row: expanding and collapsing keep it, and the row of the node above has a lower one.
-/

namespace DeclAtlas

/-- The rows of branches are those of each branch, one branch after the other. -/
theorem Branch.rowsOfAll_eq (expanded : List NodeId) (depth : Nat) (branches : List Branch) :
    Branch.rowsOfAll expanded depth branches =
      branches.flatMap (Branch.rows expanded depth) := by
  induction branches with
  | nil => rfl
  | cons branch branches ih => rw [Branch.rowsOfAll, ih, List.flatMap_cons]

namespace Tree

/-- Whether a node has a row: it is not the root, and all nodes above it but the root are
expanded. -/
def isShown (tree : Tree) (expanded : List NodeId) (id : NodeId) : Bool :=
  id != root && (tree.lineage id).tail.all fun above => above == root || expanded.contains above

/-- The row of a node. -/
def rowOf (tree : Tree) (expanded : List NodeId) (id : NodeId) : Row where
  node := id
  depth := tree.depth id - 1
  hasChildren := !(tree.children id).isEmpty
  isExpanded := expanded.contains id

variable {tree : Tree} {expanded expanded' : List NodeId} {id above : NodeId}

/-- A node is shown if all nodes above it are expanded, the root aside, which has no row. -/
theorem isShown_iff : tree.isShown expanded id = true ↔
    id ≠ root ∧ ∀ above ∈ (tree.lineage id).tail, above ≠ root → above ∈ expanded := by
  simp only [isShown, Bool.and_eq_true, bne_iff_ne, List.all_eq_true, Bool.or_eq_true, beq_iff_eq,
    List.contains_iff_mem, or_iff_not_imp_left, ne_eq]

/-- A child is shown if the node above it is shown and expanded. -/
theorem WellFormed.isShown_of_mem_children (h : tree.WellFormed) {child : NodeId}
    (hchild : child ∈ tree.children id) (hroot : id ≠ root) :
    tree.isShown expanded child = true ↔ tree.isShown expanded id = true ∧ id ∈ expanded := by
  have hid : id < tree.size :=
    Nat.lt_trans (h.lt_of_mem_children hchild) (h.lt_size_of_mem_children hchild)
  obtain ⟨above, hlineage, -⟩ := h.exists_lineage hid
  have hne : child ≠ root := Nat.ne_of_gt (h.child id child hchild).1
  rw [isShown_iff, isShown_iff, h.lineage_of_mem_children hchild, List.tail_cons, hlineage,
    List.tail_cons, List.forall_mem_cons]
  constructor
  · rintro ⟨-, hself, habove⟩
    exact ⟨⟨hroot, habove⟩, hself hroot⟩
  · rintro ⟨⟨-, habove⟩, hself⟩
    exact ⟨hne, fun _ => hself, habove⟩

/-- Right below the root everything is shown. -/
theorem WellFormed.isShown_of_mem_children_root (h : tree.WellFormed) (expanded : List NodeId)
    {child : NodeId} (hchild : child ∈ tree.children root) :
    tree.isShown expanded child = true := by
  rw [isShown_iff, h.lineage_of_mem_children hchild, List.tail_cons, h.lineage_root]
  refine ⟨Nat.ne_of_gt (h.child root child hchild).1, ?_⟩
  intro above habove hne
  exact absurd (List.mem_singleton.1 habove) hne

/-- Nothing is shown below a node that is not expanded. -/
theorem WellFormed.filter_isShown_eq_nil (h : tree.WellFormed) (hid : id < tree.size)
    (hroot : id ≠ root) (hexpanded : id ∉ expanded) :
    (tree.descendants id).tail.filter (tree.isShown expanded) = [] := by
  rw [List.filter_eq_nil_iff]
  intro below hbelow hshown
  have hsize := h.lt_size_of_mem_descendants hid (List.mem_of_mem_tail hbelow)
  have hlineage := (h.mem_tail_descendants_iff hsize).1 hbelow
  exact hexpanded ((isShown_iff.1 hshown).2 id hlineage hroot)

/-! ## The walk down and the way up -/

/-- The rows at and below a shown node. -/
theorem WellFormed.rows_branch (h : tree.WellFormed) (id : NodeId) : id < tree.size →
    tree.isShown expanded id = true →
      (tree.branch id).rows expanded (tree.depth id - 1) =
        ((tree.descendants id).filter (tree.isShown expanded)).map (tree.rowOf expanded) := by
  refine h.induction_up (motive := fun id => id < tree.size → tree.isShown expanded id = true →
    (tree.branch id).rows expanded (tree.depth id - 1) =
      ((tree.descendants id).filter (tree.isShown expanded)).map (tree.rowOf expanded))
    (fun id ih hid hshown => ?_) id
  have hroot := (isShown_iff.1 hshown).1
  have hdepth := h.depth_pos hid hroot
  have htail : (tree.descendants id).tail = (tree.children id).flatMap tree.descendants := by
    rw [h.isPreorder_descendants, List.tail_cons]
  have hbehind : (if expanded.contains id then Branch.rowsOfAll expanded (tree.depth id - 1 + 1)
        ((tree.children id).map tree.branch) else []) =
      ((tree.descendants id).tail.filter (tree.isShown expanded)).map (tree.rowOf expanded) := by
    by_cases hexpanded : id ∈ expanded
    · rw [if_pos (List.contains_iff_mem.2 hexpanded), Branch.rowsOfAll_eq, List.flatMap_map, htail,
        List.filter_flatMap, List.map_flatMap]
      refine List.flatMap_congr fun child hchild => ?_
      have hbelow := ih child hchild (h.lt_size_of_mem_children hchild)
        ((h.isShown_of_mem_children hchild hroot).2 ⟨hshown, hexpanded⟩)
      rwa [h.depth_of_mem_children hchild, Nat.add_sub_cancel,
        ← Nat.sub_add_cancel hdepth] at hbelow
    · rw [h.filter_isShown_eq_nil hid hroot hexpanded, if_neg]
      · rfl
      · rwa [List.contains_iff_mem]
  rw [h.branch_eq, Branch.rows, hbehind, List.isEmpty_map, htail, h.isPreorder_descendants,
    List.filter_cons_of_pos hshown, List.map_cons]
  rfl

/-- **The rows of a tree** are those of the shown nodes, in the pre-order of all nodes. -/
theorem WellFormed.rows_eq (h : tree.WellFormed) (expanded : List NodeId) :
    tree.rows expanded =
      ((tree.descendants root).filter (tree.isShown expanded)).map (tree.rowOf expanded) := by
  have hroot : ¬ tree.isShown expanded root = true := by
    intro hshown
    exact (isShown_iff.1 hshown).1 rfl
  rw [rows, h.children_branch, Branch.rowsOfAll_eq, List.flatMap_map, h.isPreorder_descendants,
    List.filter_cons_of_neg hroot, List.filter_flatMap, List.map_flatMap]
  refine List.flatMap_congr fun child hchild => ?_
  have hbelow := h.rows_branch child (h.lt_size_of_mem_children hchild)
    (h.isShown_of_mem_children_root expanded hchild)
  rwa [h.depth_of_mem_children hchild, h.depth_root] at hbelow

/-- The rows show the nodes in pre-order, those that are not shown left out. -/
theorem WellFormed.map_node_rows (h : tree.WellFormed) (expanded : List NodeId) :
    (tree.rows expanded).map Row.node =
      (tree.descendants root).filter (tree.isShown expanded) := by
  rw [h.rows_eq, List.map_map]
  exact List.map_id _

/-- No node has two rows. -/
theorem WellFormed.nodup_rows (h : tree.WellFormed) (expanded : List NodeId) :
    ((tree.rows expanded).map Row.node).Nodup := by
  rw [h.map_node_rows]
  exact (h.nodup_descendants root).filter _

/-- A row says of its node what the tree says of it. -/
theorem WellFormed.of_mem_rows (h : tree.WellFormed) {row : Row} (hrow : row ∈ tree.rows expanded) :
    row = tree.rowOf expanded row.node ∧ tree.isShown expanded row.node = true ∧
      row.node < tree.size := by
  rw [h.rows_eq] at hrow
  obtain ⟨id, hid, rfl⟩ := List.mem_map.1 hrow
  obtain ⟨hmem, hshown⟩ := List.mem_filter.1 hid
  exact ⟨rfl, hshown, h.lt_size_of_mem_descendants h.size_pos hmem⟩

/-- The node of a row has a node above it, which is the root for the rows of depth zero. -/
theorem WellFormed.exists_parent?_of_mem_rows (h : tree.WellFormed) {row : Row}
    (hrow : row ∈ tree.rows expanded) :
    ∃ parent, tree.parent? row.node = some parent ∧ (row.depth = 0 ↔ parent = root) := by
  obtain ⟨heq, hshown, hid⟩ := h.of_mem_rows hrow
  obtain ⟨parent, hchild⟩ := h.exists_mem_children hid (isShown_iff.1 hshown).1
  have hdepth : row.depth = tree.depth parent := by
    rw [heq, rowOf, h.depth_of_mem_children hchild, Nat.add_sub_cancel]
  refine ⟨parent, h.mem_children_iff.1 hchild, ?_⟩
  rw [hdepth]
  constructor
  · intro hzero
    by_contra hroot
    have hparent := Nat.lt_trans (h.lt_of_mem_children hchild) hid
    exact Nat.ne_of_gt (h.depth_pos hparent hroot) hzero
  · rintro rfl
    exact h.depth_root

/-! ## The rows around a node -/

/-- What is shown and how, away from a node, does not depend on whether the node is expanded. -/
theorem WellFormed.map_rowOf_congr (h : tree.WellFormed)
    (hsame : ∀ other, other ≠ id → (other ∈ expanded' ↔ other ∈ expanded)) {ids : List NodeId}
    (hids : ∀ other ∈ ids, other < tree.size ∧ other ∉ tree.descendants id) :
    (ids.filter (tree.isShown expanded')).map (tree.rowOf expanded') =
      (ids.filter (tree.isShown expanded)).map (tree.rowOf expanded) := by
  have hshown : ids.filter (tree.isShown expanded') = ids.filter (tree.isShown expanded) := by
    refine List.filter_congr fun other hother => ?_
    obtain ⟨hsize, hnot⟩ := hids other hother
    rw [Bool.eq_iff_iff, isShown_iff, isShown_iff]
    refine and_congr_right fun _ => forall₂_congr fun above habove => ?_
    have hne : above ≠ id := by
      rintro rfl
      exact hnot ((h.mem_descendants_iff other hsize).2 (List.mem_of_mem_tail habove))
    rw [hsame above hne]
  rw [hshown]
  refine List.map_congr_left fun other hother => ?_
  have hnot := (hids other (List.mem_of_mem_filter hother)).2
  have hne : other ≠ id := by
    rintro rfl
    exact hnot (h.isPreorder_descendants other ▸ List.mem_cons_self)
  have hcontains : expanded'.contains other = expanded.contains other := by
    rw [Bool.eq_iff_iff, List.contains_iff_mem, List.contains_iff_mem, hsame other hne]
  rw [rowOf, rowOf, hcontains]

/-- **The rows around a shown node.**  Its row stands right before the rows of what is shown below
it.  Whether the node is expanded makes no difference to the rows before and behind these. -/
theorem WellFormed.exists_rows_eq (h : tree.WellFormed) (hid : id < tree.size)
    (hshown : tree.isShown expanded id = true) :
    ∃ front back, ∀ expanded', (∀ other, other ≠ id → (other ∈ expanded' ↔ other ∈ expanded)) →
      tree.rows expanded' = front ++ tree.rowOf expanded' id ::
        (((tree.descendants id).tail.filter (tree.isShown expanded')).map
          (tree.rowOf expanded') ++ back) := by
  obtain ⟨front, back, hsplit⟩ := h.exists_descendants_eq (h.mem_descendants_root id hid)
  have hnodup := h.nodup_descendants root
  have hsize (other : NodeId) (hother : other ∈ tree.descendants root) : other < tree.size :=
    h.lt_size_of_mem_descendants h.size_pos hother
  rw [hsplit] at hnodup hsize
  obtain ⟨hleft, -, hright⟩ := List.nodup_append'.1 hnodup
  have hbefore := (List.nodup_append'.1 hleft).2.2
  refine ⟨(front.filter (tree.isShown expanded)).map (tree.rowOf expanded),
    (back.filter (tree.isShown expanded)).map (tree.rowOf expanded), fun expanded' hsame => ?_⟩
  have hshown' : tree.isShown expanded' id = true := by
    obtain ⟨hroot, habove⟩ := isShown_iff.1 hshown
    refine isShown_iff.2 ⟨hroot, fun above hmem hne => ?_⟩
    have hne' : above ≠ id := ((h.mem_tail_lineage_iff hid).1 hmem).2
    exact (hsame above hne').2 (habove above hmem hne)
  have hfront : ∀ other ∈ front, other < tree.size ∧ other ∉ tree.descendants id := by
    intro other hother
    exact ⟨hsize other (by simp [hother]), fun hmem => hbefore hother hmem⟩
  have hback : ∀ other ∈ back, other < tree.size ∧ other ∉ tree.descendants id := by
    intro other hother
    exact ⟨hsize other (by simp [hother]), fun hmem => hright (by simp [hmem]) hother⟩
  have hself : tree.descendants id = id :: (tree.descendants id).tail := by
    rw [h.isPreorder_descendants, List.tail_cons]
  rw [h.rows_eq, hsplit, List.filter_append, List.filter_append, List.map_append, List.map_append,
    h.map_rowOf_congr hsame hfront, h.map_rowOf_congr hsame hback, hself,
    List.filter_cons_of_pos hshown', List.map_cons, List.tail_cons, List.append_assoc,
    List.cons_append]

/-! ## Numbers of rows -/

/-- Where a node is found among the rows is the number of its row. -/
theorem WellFormed.eq_of_getElem?_rows (h : tree.WellFormed) {i j : Nat} {row other : Row}
    (hi : (tree.rows expanded)[i]? = some row) (hj : (tree.rows expanded)[j]? = some other)
    (hnode : row.node = other.node) : i = j := by
  have hlt : i < ((tree.rows expanded).map Row.node).length := by
    rw [List.length_map]
    exact (List.getElem?_eq_some_iff.1 hi).1
  refine (List.getElem?_inj hlt (h.nodup_rows expanded)).1 ?_
  rw [List.getElem?_map, List.getElem?_map, hi, hj, Option.map_some, Option.map_some, hnode]

/-- A row keeps its number when its node is expanded or collapsed. -/
theorem WellFormed.getElem?_rows_congr (h : tree.WellFormed) {number : Nat} {row : Row}
    (hrow : (tree.rows expanded)[number]? = some row)
    (hsame : ∀ other, other ≠ row.node → (other ∈ expanded' ↔ other ∈ expanded)) :
    (tree.rows expanded')[number]? =
      some { row with isExpanded := expanded'.contains row.node } := by
  obtain ⟨heq, hshown, hid⟩ := h.of_mem_rows (List.mem_of_getElem? hrow)
  obtain ⟨front, back, hsplit⟩ := h.exists_rows_eq hid hshown
  have hat (expanded' : List NodeId)
      (hsame : ∀ other, other ≠ row.node → (other ∈ expanded' ↔ other ∈ expanded)) :
      (tree.rows expanded')[front.length]? = some (tree.rowOf expanded' row.node) := by
    rw [hsplit expanded' hsame, List.getElem?_append_right (Nat.le_refl _), Nat.sub_self]
    rfl
  have hnumber : number = front.length :=
    h.eq_of_getElem?_rows hrow (hat expanded fun _ _ => Iff.rfl) rfl
  rw [hnumber, hat expanded' hsame, heq]
  rfl

/-- Above the row of a node that is not right below the root there is the row of the node above it,
one level higher. -/
theorem WellFormed.exists_row_above (h : tree.WellFormed) {number : Nat} {row : Row}
    (hrow : (tree.rows expanded)[number]? = some row) (hparent : tree.parent? row.node = some above)
    (hroot : above ≠ root) :
    ∃ other : Nat, other < number ∧
      (tree.rows expanded).findIdx? (fun row => row.node == above) = some other ∧
      (tree.rows expanded)[other]? = some (tree.rowOf expanded above) ∧
      (tree.rowOf expanded above).depth + 1 = row.depth := by
  obtain ⟨heq, hshown, hid⟩ := h.of_mem_rows (List.mem_of_getElem? hrow)
  have hchild : row.node ∈ tree.children above := h.mem_children_iff.2 hparent
  have habove : above < tree.size := Nat.lt_trans (h.lt_of_mem_children hchild) hid
  obtain ⟨hshown', -⟩ := (h.isShown_of_mem_children hchild hroot).1 hshown
  obtain ⟨front, back, hsplit⟩ := h.exists_rows_eq habove hshown'
  have hrows := hsplit expanded fun _ _ => Iff.rfl
  have hat : (tree.rows expanded)[front.length]? = some (tree.rowOf expanded above) := by
    rw [hrows, List.getElem?_append_right (Nat.le_refl _), Nat.sub_self]
    rfl
  refine ⟨front.length, ?_, ?_, hat, ?_⟩
  · -- the row is one of those that follow the row of the node above
    have hbelow : row ∈ ((tree.descendants above).tail.filter (tree.isShown expanded)).map
        (tree.rowOf expanded) := by
      refine List.mem_map.2 ⟨row.node, List.mem_filter.2 ⟨?_, hshown⟩, heq.symm⟩
      rw [h.mem_tail_descendants_iff hid, h.lineage_of_mem_children hchild]
      exact h.self_mem_lineage above
    obtain ⟨offset, hoffset⟩ := List.getElem?_of_mem hbelow
    have hbehind : (tree.rows expanded)[front.length + (offset + 1)]? = some row := by
      rw [hrows, List.getElem?_append_right (Nat.le_add_right _ _), Nat.add_sub_cancel_left,
        List.getElem?_cons_succ, List.getElem?_append_left (List.getElem?_eq_some_iff.1 hoffset).1]
      exact hoffset
    have hnumber := h.eq_of_getElem?_rows hrow hbehind rfl
    omega
  · have hnot : ∀ other ∈ front, ¬ (other.node == above) = true := by
      intro other hother hnode
      obtain ⟨index, hindex⟩ := List.getElem?_of_mem hother
      have hlt := (List.getElem?_eq_some_iff.1 hindex).1
      have hindex' : (tree.rows expanded)[index]? = some other := by
        rw [hrows, List.getElem?_append_left hlt]
        exact hindex
      have hsame := h.eq_of_getElem?_rows hindex' hat (beq_iff_eq.1 hnode)
      omega
    have hself : ((tree.rowOf expanded above).node == above) = true := beq_iff_eq.2 rfl
    rw [hrows, List.findIdx?_append, List.findIdx?_eq_none_iff.2 (by simpa using hnot),
      List.findIdx?_cons, hself]
    simp
  · have hpos := h.depth_pos habove hroot
    have hdepth : row.depth = tree.depth above := by
      rw [heq, rowOf, h.depth_of_mem_children hchild, Nat.add_sub_cancel]
    rw [hdepth, rowOf, Nat.sub_add_cancel hpos]

end Tree

end DeclAtlas
