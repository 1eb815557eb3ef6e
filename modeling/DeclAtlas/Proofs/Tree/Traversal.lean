import Mathlib
import DeclAtlas.Proofs.Browser.Row
import DeclAtlas.Proofs.Scanner.Growth
import DeclAtlas.Tree.Outline
import DeclAtlas.Tree.Record

/-!
# Traversals

Four functions go through a tree: `descendants` lists its nodes, `record` writes them as nested
objects, `outline` as indented lines, and `rows` shows them in the browser.

**Theorem** (`Tree.Marked.traversals_agree`): in every tree that comes from reading sources they all
follow one order, the pre-order of the links, in which every node of a branch occurs once.  A walk
with a stack comes to an end and follows that order too.

**Theorem** (`Tree.WellFormed.stackWalk_rows`): a walk with a stack of nodes and their depths, which
goes below expanded nodes only, comes to an end and meets the rows in their order.

Each traversal is compared with `descendants` by induction from the leaves upwards
(`WellFormed.induction_up`).
-/

namespace DeclAtlas

/-- A walk with a stack of what is still to be visited: what is on top is visited, and what comes
next to it is put on the stack, the first on top.  The walk ends when the stack is empty. -/
inductive StackWalk {α : Type} (next : α → List α) : List α → List α → Prop
  | done : StackWalk next [] []
  | visit {top : α} {pending order : List α} (rest : StackWalk next (next top ++ pending) order) :
      StackWalk next (top :: pending) (top :: order)

/-- What was put on the stack together is walked through one after the other. -/
theorem StackWalk.append {α : Type} {next order : α → List α} {tops : List α}
    (h : ∀ top ∈ tops, ∀ pending visited, StackWalk next pending visited →
      StackWalk next (top :: pending) (order top ++ visited))
    {pending visited : List α} (hrest : StackWalk next pending visited) :
    StackWalk next (tops ++ pending) (tops.flatMap order ++ visited) := by
  induction tops with
  | nil => exact hrest
  | cons top tops ih =>
      rw [List.forall_mem_cons] at h
      rw [List.flatMap_cons, List.append_assoc]
      exact h.1 _ _ (ih h.2)

/-! ## Reading records -/

namespace Json.Value

mutual

/-- The objects of a record in pre-order, each without the objects below it. -/
def entries : Value → List (List (Text × Value))
  | object members =>
    members.filter (fun member => member.1 != "children".toList) :: entriesOfMembers members
  | _ => []

/-- The objects in the member that holds the objects below. -/
def entriesOfMembers : List (Text × Value) → List (List (Text × Value))
  | [] => []
  | (name, value) :: members =>
    (if name = "children".toList then value.entriesOfItems else []) ++ entriesOfMembers members

/-- The objects in an array. -/
def entriesOfItems : Value → List (List (Text × Value))
  | array items => entriesOfAll items
  | _ => []

/-- The objects of several records, one after the other. -/
def entriesOfAll : List Value → List (List (Text × Value))
  | [] => []
  | item :: items => item.entries ++ entriesOfAll items

end

/-- The objects below come from one part of the members or the other. -/
theorem entriesOfMembers_append (a b : List (Text × Value)) :
    entriesOfMembers (a ++ b) = entriesOfMembers a ++ entriesOfMembers b := by
  induction a with
  | nil => rfl
  | cons member a ih =>
      rw [List.cons_append, entriesOfMembers, ih, entriesOfMembers, List.append_assoc]

/-- Without the member for children there are no objects below. -/
theorem entriesOfMembers_eq_nil {members : List (Text × Value)}
    (h : ∀ member ∈ members, member.1 ≠ "children".toList) : entriesOfMembers members = [] := by
  induction members with
  | nil => rfl
  | cons member members ih =>
      rw [List.forall_mem_cons] at h
      rw [entriesOfMembers, if_neg h.1, ih h.2, List.nil_append]

end Json.Value

open Json

/-- What an object of a record says of its own node. -/
def recordEntry (label : Text) (element : Option Element) : List (Text × Value) :=
  ("label".toList, .text label) :: (element.map Element.members).getD []

/-- What an object says of its own node is not the member for children. -/
theorem name_ne_of_mem_recordEntry (label : Text) (element : Option Element) :
    ∀ member ∈ recordEntry label element, member.1 ≠ "children".toList := by
  rw [recordEntry, List.forall_mem_cons]
  have hlabel : "label".toList ≠ "children".toList := by decide
  refine ⟨hlabel, ?_⟩
  rcases element with _ | element
  · exact fun _ hmember => absurd hmember List.not_mem_nil
  · have hnames : ∀ name ∈ element.members.map Prod.fst, name ≠ "children".toList := by
      rw [Element.members]
      simp only [List.map_cons, List.map_nil]
      decide
    intro member hmember
    exact hnames member.1 (List.mem_map_of_mem hmember)

/-! ### Records lose nothing -/

/-- A kind is found by its tag. -/
theorem Kind.find?_tag (kind : Kind) :
    [Kind.nameSpace, .classType, .interfaceType, .structType, .enumType, .function, .property,
      .field].find? (fun other => other.tag == kind.tag) = some kind := by
  cases kind <;> rfl

/-- Kinds with the same tag are the same. -/
theorem Kind.tag_injective {a b : Kind} (h : a.tag = b.tag) : a = b :=
  Option.some.inj ((find?_tag a).symm.trans (h ▸ find?_tag b))

/-- A visibility is found by its tag. -/
theorem Visibility.find?_tag (visibility : Visibility) :
    [Visibility.publicAccess, .internalAccess, .protectedAccess, .privateAccess,
      .unspecified].find? (fun other => other.tag == visibility.tag) = some visibility := by
  cases visibility <;> rfl

/-- Visibilities with the same tag are the same. -/
theorem Visibility.tag_injective {a b : Visibility} (h : a.tag = b.tag) : a = b :=
  Option.some.inj ((find?_tag a).symm.trans (h ▸ find?_tag b))

/-- The type that a record shows. -/
def TypeForm.ofRecord : Value → TypeForm
  | .text t => if t = "Constructor".toList then .constructor else .absent
  | .object [(_, .text name)] => .named name
  | _ => .absent

/-- A type is read back from its record. -/
theorem TypeForm.ofRecord_record (type : TypeForm) : ofRecord type.record = type := by
  cases type <;> rfl

/-- A record shows all of an element: elements with the same members are the same. -/
theorem Element.members_injective {a b : Element} (h : a.members = b.members) : a = b := by
  obtain ⟨name, kind, visibility, modifiers, type, defaultValue, attributes, bases, summary,
    exportable⟩ := a
  simp only [Element.members, List.cons.injEq, Prod.mk.injEq, true_and, and_true, Value.text.injEq,
    Value.array.injEq, Value.flag.injEq] at h
  obtain ⟨rfl, hkind, hvisibility, hmodifiers, htype, rfl, rfl, rfl, rfl, rfl⟩ := h
  have htext : Function.Injective Value.text := fun _ _ heq => Value.text.inj heq
  obtain rfl := Kind.tag_injective hkind
  obtain rfl := Visibility.tag_injective hvisibility
  obtain rfl := List.map_injective_iff.2 htext hmodifiers
  have hsame : type = b.type := by
    rw [← TypeForm.ofRecord_record type, htype, TypeForm.ofRecord_record]
  rw [hsame]

/-- The label and the whole declaration can be read off an object. -/
theorem recordEntry_injective {label label' : Text} {element element' : Option Element}
    (h : recordEntry label element = recordEntry label' element') :
    label = label' ∧ element = element' := by
  simp only [recordEntry, List.cons.injEq, Prod.mk.injEq, true_and, Value.text.injEq] at h
  obtain ⟨hlabel, hmembers⟩ := h
  refine ⟨hlabel, ?_⟩
  rcases element with _ | element <;> rcases element' with _ | element'
  · rfl
  · exact absurd hmembers.symm (List.cons_ne_nil _ _)
  · exact absurd hmembers (List.cons_ne_nil _ _)
  · exact congrArg some (Element.members_injective hmembers)

/-! ## Branches -/

namespace Branch

/-- One line of an outline. -/
def outlineLine (indent : Nat) (label : Text) (element : Option Element) : Text :=
  List.replicate (2 * indent) ' ' ++ outlineHead label element ++ ['\n']

/-- The outline of branches is that of each branch, one branch after the other. -/
theorem outlineOfAll_eq (depth : Nat) (branches : List Branch) :
    outlineOfAll depth branches = branches.flatMap (outlineAt depth) := by
  induction branches with
  | nil => rfl
  | cons branch branches ih => rw [outlineOfAll, ih, List.flatMap_cons]

/-- The objects in the records of branches are those of each branch, one after the other. -/
theorem entriesOfAll_recordsOfAll (branches : List Branch) :
    Value.entriesOfAll (recordsOfAll branches) =
      branches.flatMap fun branch => branch.record.entries := by
  induction branches with
  | nil => rfl
  | cons branch branches ih => rw [recordsOfAll, Value.entriesOfAll, ih, List.flatMap_cons]

/-- The objects below are those in the member for children. -/
theorem entriesOfMembers_childrenMember (records : List Value) :
    Value.entriesOfMembers (childrenMember records) = Value.entriesOfAll records := by
  rcases records with _ | ⟨record, records⟩
  · rfl
  · have hmember : childrenMember (record :: records) =
        [("children".toList, .array (record :: records))] := rfl
    rw [hmember, Value.entriesOfMembers, if_pos rfl, Value.entriesOfItems, Value.entriesOfMembers,
      List.append_nil]

/-- The member for children is no part of what an object says of its own node. -/
theorem filter_childrenMember (records : List Value) :
    (childrenMember records).filter (fun member => member.1 != "children".toList) = [] := by
  rcases records with _ | ⟨record, records⟩ <;> rfl

/-- The objects of a record are that of its top node and those of the records below. -/
theorem entries_record (id : NodeId) (label : Text) (element : Option Element)
    (children : List Branch) :
    (node id label element children).record.entries =
      recordEntry label element :: children.flatMap fun branch => branch.record.entries := by
  have hnames := name_ne_of_mem_recordEntry label element
  have hself : (recordEntry label element).filter (fun member => member.1 != "children".toList) =
      recordEntry label element := by
    rw [List.filter_eq_self]
    intro member hmember
    exact bne_iff_ne.2 (hnames member hmember)
  have hrecord : (node id label element children).record =
      .object (recordEntry label element ++ childrenMember (recordsOfAll children)) := by
    rw [record]
    rfl
  rw [hrecord, Value.entries, List.filter_append, hself, filter_childrenMember, List.append_nil,
    Value.entriesOfMembers_append, Value.entriesOfMembers_eq_nil hnames,
    entriesOfMembers_childrenMember, entriesOfAll_recordsOfAll, List.nil_append]

end Branch

namespace Tree

variable {tree : Tree} {id : NodeId}

/-! ## Each traversal -/

/-- A walk with a stack ends if what it follows are links of a tree, and goes through their
pre-order. -/
theorem IsPreorder.stackWalk {next order : NodeId → List NodeId} (horder : IsPreorder next order)
    (h : tree.WellFormed) (hnext : ∀ id, next id ⊆ tree.children id) (id : NodeId) :
    ∀ pending visited, StackWalk next pending visited →
      StackWalk next (id :: pending) (order id ++ visited) := by
  refine h.induction_up (motive := fun id => ∀ pending visited, StackWalk next pending visited →
    StackWalk next (id :: pending) (order id ++ visited)) (fun id ih pending visited hrest => ?_) id
  rw [horder, List.cons_append]
  refine .visit ?_
  exact .append (fun child hchild => ih child (hnext id hchild)) hrest

/-- The objects of a record are those of the descendants. -/
theorem WellFormed.entries_record (h : tree.WellFormed) (id : NodeId) :
    (tree.record id).entries =
      (tree.descendants id).map fun node =>
        recordEntry (tree.label node) (tree.element? node) := by
  refine h.induction_up (motive := fun id => (tree.record id).entries =
    (tree.descendants id).map fun node => recordEntry (tree.label node) (tree.element? node))
    (fun id ih => ?_) id
  rw [record, h.branch_eq, Branch.entries_record, List.flatMap_map, h.isPreorder_descendants,
    List.map_cons, List.map_flatMap]
  congr 1
  exact List.flatMap_congr ih

/-- The lines of an outline are those of the descendants. -/
theorem WellFormed.outlineAt_branch (h : tree.WellFormed) (base : Nat) (id : NodeId) :
    base ≤ tree.depth id →
      (tree.branch id).outlineAt (tree.depth id - base) =
        (tree.descendants id).flatMap fun node =>
          Branch.outlineLine (tree.depth node - base) (tree.label node) (tree.element? node) := by
  refine h.induction_up (motive := fun id => base ≤ tree.depth id →
    (tree.branch id).outlineAt (tree.depth id - base) =
      (tree.descendants id).flatMap fun node =>
        Branch.outlineLine (tree.depth node - base) (tree.label node) (tree.element? node))
    (fun id ih hbase => ?_) id
  have hbelow : ((tree.children id).map tree.branch).flatMap
        (Branch.outlineAt (tree.depth id - base + 1)) =
      ((tree.children id).flatMap tree.descendants).flatMap fun node =>
        Branch.outlineLine (tree.depth node - base) (tree.label node) (tree.element? node) := by
    rw [List.flatMap_map, List.flatMap_assoc]
    refine List.flatMap_congr fun child hchild => ?_
    have hdepth := h.depth_of_mem_children hchild
    rw [← ih child hchild (by omega), hdepth, Nat.succ_sub hbase]
  rw [h.branch_eq, Branch.outlineAt, Branch.outlineOfAll_eq, hbelow, h.isPreorder_descendants,
    List.flatMap_cons, Branch.outlineLine]

/-- All nodes but the root are shown if all of them are expanded. -/
theorem WellFormed.rows_of_all (h : tree.WellFormed) {expanded : List NodeId}
    (hexpanded : ∀ node < tree.size, node ≠ root → node ∈ expanded) :
    tree.rows expanded = (tree.descendants root).tail.map fun node =>
      { node
        depth := tree.depth node - 1
        hasChildren := !(tree.children node).isEmpty
        isExpanded := true } := by
  have hnode (node : NodeId) (hmem : node ∈ (tree.descendants root).tail) :
      node < tree.size ∧ node ≠ root := by
    have hsize := h.lt_size_of_mem_descendants h.size_pos (List.mem_of_mem_tail hmem)
    have habove := (h.mem_tail_descendants_iff hsize).1 hmem
    exact ⟨hsize, Ne.symm ((h.mem_tail_lineage_iff hsize).1 habove).2⟩
  have hshown : (tree.descendants root).filter (tree.isShown expanded) =
      (tree.descendants root).tail := by
    have hself : ¬ tree.isShown expanded root = true := fun hshown => (isShown_iff.1 hshown).1 rfl
    have hcons : tree.descendants root = root :: (tree.descendants root).tail := by
      rw [h.isPreorder_descendants, List.tail_cons]
    rw [hcons, List.tail_cons, List.filter_cons_of_neg hself, List.filter_eq_self]
    intro node hmem
    obtain ⟨hsize, hroot⟩ := hnode node hmem
    refine isShown_iff.2 ⟨hroot, fun above habove => hexpanded above ?_⟩
    exact Nat.lt_of_le_of_lt (h.le_of_mem_lineage hsize (List.mem_of_mem_tail habove)) hsize
  rw [h.rows_eq, hshown]
  refine List.map_congr_left fun node hmem => ?_
  obtain ⟨hsize, hroot⟩ := hnode node hmem
  rw [rowOf, List.contains_iff_mem.2 (hexpanded node hsize hroot)]

/-- What a walk for the rows puts on its stack behind a node at a depth: the nodes below it, one
level deeper, if it is expanded. -/
def expand (tree : Tree) (expanded : List NodeId) (entry : NodeId × Nat) : List (NodeId × Nat) :=
  if expanded.contains entry.1 then (tree.children entry.1).map fun child => (child, entry.2 + 1)
  else []

/-- The nodes of the rows of a branch with their depths, if its top node is shown at a depth. -/
def shownFrom (tree : Tree) (expanded : List NodeId) (entry : NodeId × Nat) : List (NodeId × Nat) :=
  ((tree.branch entry.1).rows expanded entry.2).map fun row => (row.node, row.depth)

/-- The rows of a branch are that of its top node and those of what is put on the stack behind
it. -/
theorem WellFormed.shownFrom_eq (h : tree.WellFormed) (expanded : List NodeId)
    (entry : NodeId × Nat) :
    tree.shownFrom expanded entry =
      entry :: (tree.expand expanded entry).flatMap (tree.shownFrom expanded) := by
  obtain ⟨id, depth⟩ := entry
  rw [shownFrom, h.branch_eq, Branch.rows, expand]
  split_ifs with hexpanded
  · rw [List.map_cons, Branch.rowsOfAll_eq, List.flatMap_map, List.map_flatMap, List.flatMap_map]
    rfl
  · rfl

/-- A walk with a stack that meets a node at a depth goes through the rows of its branch. -/
theorem WellFormed.stackWalk_shownFrom (h : tree.WellFormed) (expanded : List NodeId)
    (id : NodeId) : ∀ depth pending visited, StackWalk (tree.expand expanded) pending visited →
      StackWalk (tree.expand expanded) ((id, depth) :: pending)
        (tree.shownFrom expanded (id, depth) ++ visited) := by
  refine h.induction_up (motive := fun id => ∀ depth pending visited,
    StackWalk (tree.expand expanded) pending visited →
      StackWalk (tree.expand expanded) ((id, depth) :: pending)
        (tree.shownFrom expanded (id, depth) ++ visited))
    (fun id ih depth pending visited hrest => ?_) id
  rw [h.shownFrom_eq, List.cons_append]
  refine .visit (.append (fun entry hentry => ?_) hrest)
  rw [expand] at hentry
  split_ifs at hentry
  · obtain ⟨child, hchild, rfl⟩ := List.mem_map.1 hentry
    exact ih child hchild (depth + 1)
  · exact absurd hentry List.not_mem_nil

/-- The row of a node that is met at a depth. -/
def rowAt (tree : Tree) (expanded : List NodeId) (entry : NodeId × Nat) : Row where
  node := entry.1
  depth := entry.2
  hasChildren := !(tree.children entry.1).isEmpty
  isExpanded := expanded.contains entry.1

/-- **A walk with a stack meets the rows.**  It starts with the nodes right below the root at depth
zero.  It comes to an end, and the rows are those of the nodes it has met, in the order in which it
has met them. -/
theorem WellFormed.stackWalk_rows (h : tree.WellFormed) (expanded : List NodeId) :
    ∃ visited, StackWalk (tree.expand expanded)
        ((tree.children root).map fun child => (child, 0)) visited ∧
      visited.map (tree.rowAt expanded) = tree.rows expanded := by
  refine ⟨(tree.rows expanded).map fun row => (row.node, row.depth), ?_, ?_⟩
  · have hrows : (tree.rows expanded).map (fun row => (row.node, row.depth)) =
        ((tree.children root).map fun child => (child, 0)).flatMap (tree.shownFrom expanded) := by
      rw [rows, h.children_branch, Branch.rowsOfAll_eq, List.flatMap_map, List.map_flatMap,
        List.flatMap_map]
      rfl
    have hwalk : StackWalk (tree.expand expanded)
        (((tree.children root).map fun child => (child, 0)) ++ [])
        (((tree.children root).map fun child => (child, 0)).flatMap (tree.shownFrom expanded) ++
          []) := by
      refine .append (fun entry hentry => ?_) .done
      obtain ⟨child, -, rfl⟩ := List.mem_map.1 hentry
      exact h.stackWalk_shownFrom expanded child 0
    rw [List.append_nil, List.append_nil] at hwalk
    rw [hrows]
    exact hwalk
  · rw [List.map_map]
    refine (List.map_congr_left fun row hrow => ?_).trans (List.map_id' _)
    have hrow := (h.of_mem_rows hrow).1
    rw [Function.comp_apply, hrow]
    rfl

/-- Every node is listed once below the root. -/
theorem WellFormed.perm_descendants_root (h : tree.WellFormed) :
    (tree.descendants root).Perm (List.range tree.size) := by
  rw [List.perm_ext_iff_of_nodup (h.nodup_descendants root) List.nodup_range]
  intro node
  rw [List.mem_range]
  exact ⟨h.lt_size_of_mem_descendants h.size_pos, h.mem_descendants_root node⟩

/-- The descendants of a node are what the links upwards lead from. -/
theorem WellFormed.mem_descendants_iff_reaches (h : tree.WellFormed) {node : NodeId} :
    node ∈ tree.descendants id ↔
      Relation.ReflTransGen (fun above below => tree.parent? below = some above) id node := by
  rw [h.isPreorder_descendants.mem_iff h fun _ => List.Subset.refl _]
  simp only [h.mem_children_iff]

/-! ## All traversals -/

/-- **The traversals agree.**  Whatever was read into a tree and marked in it, a walk with a stack
from any node ends.  It goes through the descendants of the node, which are the nodes of its branch
in pre-order, each once; from the root these are all nodes.  The objects of the record of a branch,
in pre-order, show the labels and declarations of its descendants, and its outline has one line for
each of them, indented by twice its depth below the top.  With all nodes expanded the rows are those
of the descendants of the root, without the root and one level higher. -/
theorem Marked.traversals_agree (h : tree.Marked) (id : NodeId) :
    StackWalk tree.children [id] (tree.descendants id) ∧
      IsPreorder tree.children tree.descendants ∧
      (tree.descendants id).Nodup ∧
      (∀ node, node ∈ tree.descendants id ↔
        Relation.ReflTransGen (fun above below => tree.parent? below = some above) id node) ∧
      (tree.descendants root).Perm (List.range tree.size) ∧
      (tree.record id).entries = (tree.descendants id).map (fun node =>
        recordEntry (tree.label node) (tree.element? node)) ∧
      (∀ label label' element element',
        recordEntry label element = recordEntry label' element' →
          label = label' ∧ element = element') ∧
      tree.outline id = (tree.descendants id).flatMap (fun node =>
        Branch.outlineLine (tree.depth node - tree.depth id) (tree.label node)
          (tree.element? node)) ∧
      ∀ expanded : List NodeId, (∀ node < tree.size, node ≠ root → node ∈ expanded) →
        tree.rows expanded = (tree.descendants root).tail.map fun node =>
          { node
            depth := tree.depth node - tree.depth root - 1
            hasChildren := !(tree.children node).isEmpty
            isExpanded := true } := by
  have hwf := h.wellFormed
  have hwalk := hwf.isPreorder_descendants.stackWalk hwf (fun _ => List.Subset.refl _) id [] []
    .done
  rw [List.append_nil] at hwalk
  have houtline := hwf.outlineAt_branch (tree.depth id) id (Nat.le_refl _)
  rw [Nat.sub_self] at houtline
  refine ⟨hwalk, hwf.isPreorder_descendants, hwf.nodup_descendants id,
    fun _ => hwf.mem_descendants_iff_reaches, hwf.perm_descendants_root, hwf.entries_record id,
    fun _ _ _ _ => recordEntry_injective, houtline, fun expanded hexpanded => ?_⟩
  rw [hwf.depth_root]
  exact hwf.rows_of_all hexpanded

/-- Two classes, and in a second source a field of the first class, which is marked: the numbers of
the nodes are not in pre-order. -/
def mergedTree : Tree :=
  (((ofLabel "Test").read root {} "class A \x7b int x; \x7d class B \x7b \x7d").tree.read 1 {}
    "int y;").tree.setExportable 4 true

/-- The walks of the merged tree: the field of the second source comes before the second class. -/
theorem traversals_agree_mergedTree :
    mergedTree.Marked ∧ mergedTree.descendants root = [0, 1, 2, 4, 3] ∧
      StackWalk mergedTree.children [root] [0, 1, 2, 4, 3] ∧
      mergedTree.outline root = [0, 1, 2, 4, 3].flatMap (fun node =>
        Branch.outlineLine (mergedTree.depth node - mergedTree.depth root) (mergedTree.label node)
          (mergedTree.element? node)) ∧
      (mergedTree.rows [4, 3, 2, 1]).map (fun row => (row.node, row.depth)) =
        [(1, 0), (2, 1), (4, 1), (3, 0)] := by
  have hmarked : mergedTree.Marked :=
    .mark (.reached (((Reached.ofLabel _).read root (by decide) _ _).read 1
      (by decide +kernel) _ _)) 4 true
  have horder : mergedTree.descendants root = [0, 1, 2, 4, 3] := by decide +kernel
  obtain ⟨hwalk, -, -, -, -, -, -, houtline, hrows⟩ := hmarked.traversals_agree root
  rw [horder] at hwalk houtline hrows
  refine ⟨hmarked, horder, hwalk, houtline, ?_⟩
  have hsize : mergedTree.size = 5 := by decide +kernel
  have hexpanded : ∀ node < mergedTree.size, node ≠ root → node ∈ [4, 3, 2, 1] := by
    intro node hnode hroot
    have hpos : 0 < node := Nat.pos_of_ne_zero hroot
    simp only [List.mem_cons, List.not_mem_nil, or_false]
    omega
  rw [hrows _ hexpanded]
  decide +kernel

end Tree

end DeclAtlas
