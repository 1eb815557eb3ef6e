import Mathlib
import DeclAtlas.Proofs.Scanner.Blocks
import DeclAtlas.Proofs.Scanner.Naming

/-!
# Reading with every look-up checked

The functions on trees are total: what is looked up at a number without a node is empty, and a name
without a display name stands for itself.  This module reads a source in a second way, in which
either is a failure (`Tree.checkedRead?`): every node is looked up by `Tree.node?`, and a node is
added only with a display name that `DisplayName.ofName?` gives.

**Theorem** (`Tree.Reached.checkedRead?_eq`): reading a source below a node of a tree that comes
from reading sources never fails in this way, whatever the source says.  All names it leaves in the
tree are proper.

Nodes are there because the scanner holds on to nodes of its tree only (`Scanner.Grounded`), and
display names are there because headers declare proper names only (`Header.Fresh`).  Each function
of the second way agrees with the one it checks under these two conditions.
-/

namespace DeclAtlas

namespace Tree

/-! ## Checked look-ups and declarations -/

/-- The nodes below a node, which has to be there. -/
def checkedChildren? (tree : Tree) (id : NodeId) : Option (List NodeId) :=
  (tree.node? id).map Node.children

/-- The declaration of a node, which has to be there. -/
def checkedElement? (tree : Tree) (id : NodeId) : Option (Option Element) :=
  (tree.node? id).map Node.element

/-- The first of some nodes that declares the name.  All nodes up to it have to be there. -/
def checkedFirst? (tree : Tree) (name : Text) : List NodeId → Option (Option NodeId)
  | [] => some none
  | id :: ids => do
    let element ← tree.checkedElement? id
    if element.any fun element => element.name == name then some (some id)
    else tree.checkedFirst? name ids

/-- The declaration that was added last below a node.  Both nodes have to be there. -/
def checkedLast? (tree : Tree) (id : NodeId) : Option (Option Element) := do
  match (← tree.checkedChildren? id).getLast? with
  | none => some none
  | some child => tree.checkedElement? child

/-- Adds a node for a declaration.  The name has to have a display name, and the node above has to
be there. -/
def checkedAddChild? (tree : Tree) (parent : NodeId) (element : Element) : Option Tree := do
  let label ← DisplayName.ofName? element.name
  let _ ← tree.node? parent
  let nodes := tree.nodes.modify parent fun node =>
    { node with children := node.children ++ [tree.size] }
  some { nodes := nodes.push { label, element := some element, parent := some parent } }

/-- The element that a new declaration puts into the tree.  If it takes after the one before it,
that one has to be there. -/
def checkedInherit? (tree : Tree) (parent : NodeId) (inherits : Bool) (element : Element) :
    Option Element :=
  (if inherits then tree.checkedLast? parent else some none).map fun
    | none => element
    | some sibling =>
      { sibling with
        name := element.name
        defaultValue := element.defaultValue
        summary := element.summary
        exportable := false }

/-- Adds a declaration below a node, or finds it. -/
def checkedDeclare? (tree : Tree) (parent : NodeId) (inherits : Bool) (element : Element) :
    Option (Tree × NodeId) := do
  match ← tree.checkedFirst? element.name (← tree.checkedChildren? parent) with
  | some existing =>
    let _ ← tree.node? existing
    some (tree.appendSummary existing element.summary, existing)
  | none =>
    let added ← tree.checkedInherit? parent inherits element
    some (← tree.checkedAddChild? parent added, tree.size)

section declare

variable {tree : Tree} {id parent : Nat}

/-- The check passes for a node of the tree: its children are found. -/
theorem checkedChildren?_eq (hid : id < tree.size) :
    tree.checkedChildren? id = some (tree.children id) := by
  obtain ⟨node, hnode⟩ := exists_node? hid
  rw [checkedChildren?, children, hnode]
  rfl

/-- The check passes for a node of the tree: its element is found. -/
theorem checkedElement?_eq (hid : id < tree.size) :
    tree.checkedElement? id = some (tree.element? id) := by
  obtain ⟨node, hnode⟩ := exists_node? hid
  rw [checkedElement?, element?, hnode]
  rfl

/-- The check passes for nodes of the tree: the first one of the name is found. -/
theorem checkedFirst?_eq {ids : List NodeId} (hids : ∀ id ∈ ids, id < tree.size) (name : Text) :
    tree.checkedFirst? name ids = some (ids.find? fun id => tree.isNamed id name) := by
  induction ids with
  | nil => rfl
  | cons id ids ih =>
      obtain ⟨hid, hids⟩ := List.forall_mem_cons.1 hids
      rw [checkedFirst?, checkedElement?_eq hid, List.find?_cons, ih hids]
      change (if tree.isNamed id name = true then _ else _) = _
      cases tree.isNamed id name <;> rfl

/-- The check passes in a well-formed tree: the last child is there. -/
theorem WellFormed.checkedLast?_eq (h : tree.WellFormed) (hid : id < tree.size) :
    tree.checkedLast? id = some ((tree.lastChild? id).bind tree.element?) := by
  rw [checkedLast?, checkedChildren?_eq hid, lastChild?]
  rcases hlast : (tree.children id).getLast? with _ | child
  · simp [hlast]
  · have hchild : child < tree.size := (h.child id child (List.mem_of_getLast? hlast)).2
    simp [hlast, checkedElement?_eq hchild]

/-- The check passes for a spaced name below a node of the tree: the child is added. -/
theorem checkedAddChild?_eq (hparent : parent < tree.size) {element : Element}
    (hspaced : DisplayName.Spaced element.name) :
    tree.checkedAddChild? parent element = some (tree.addChild parent element) := by
  obtain ⟨node, hnode⟩ := exists_node? hparent
  obtain ⟨label, hlabel⟩ := Option.isSome_iff_exists.1 (DisplayName.ofName?_isSome hspaced)
  rw [checkedAddChild?, addChild, Element.displayName, DisplayName.ofName, hlabel, hnode]
  rfl

/-- The check passes in a well-formed tree: the sibling is there. -/
theorem WellFormed.checkedInherit?_eq (h : tree.WellFormed) (hparent : parent < tree.size)
    (inherits : Bool) (element : Element) :
    tree.checkedInherit? parent inherits element = some (tree.inherit parent inherits element) := by
  cases inherits with
  | false => rfl
  | true =>
      rw [checkedInherit?, if_pos rfl, h.checkedLast?_eq hparent, inherit, if_pos rfl]
      rfl

/-- The checks of a declaration pass in a well-formed tree. -/
theorem WellFormed.checkedDeclare?_eq (h : tree.WellFormed) (hparent : parent < tree.size)
    (inherits : Bool) {element : Element} (hspaced : DisplayName.Spaced element.name) :
    tree.checkedDeclare? parent inherits element = some (tree.declare parent inherits element) := by
  have hfirst : tree.checkedFirst? element.name (tree.children parent) =
      some (tree.findChild? parent element.name) :=
    checkedFirst?_eq (fun child hchild => (h.child parent child hchild).2) element.name
  simp only [checkedDeclare?, checkedChildren?_eq hparent, hfirst, Option.bind_eq_bind,
    Option.bind_some]
  rcases hfind : tree.findChild? parent element.name with _ | existing
  · have hadd : tree.checkedAddChild? parent (tree.inherit parent inherits element) = _ :=
      checkedAddChild?_eq hparent (by rwa [name_inherit])
    rw [declare_of_none hfind]
    simp only [h.checkedInherit?_eq hparent, hadd, Option.bind_some]
  · obtain ⟨node, hnode⟩ :=
      exists_node? (h.child parent existing (List.mem_of_find?_eq_some hfind)).2
    rw [declare_of_some hfind]
    simp only [hnode, Option.bind_some]

end declare

end Tree

namespace Scanner

/-! ## Checked headers -/

/-- The place in which the next header is read. -/
def checkedContext? (s : Scanner) (boundary : Boundary) : Option HeaderContext := do
  let parent ← s.tree.checkedElement? s.current
  let previous ← s.tree.checkedLast? s.current
  some { boundary, parent := parent.map Element.kind, previous := previous.map Element.kind }

/-- Takes in what a header says.  Only a declaration looks at the tree. -/
def checkedTake? (s : Scanner) (boundary : Boundary) : Header → Option (Scanner × NodeId)
  | .declaration element opensBody => do
    let inherits := element.type.isAbsent && boundary != .opening
    let (tree, node) ←
      s.tree.checkedDeclare? s.current inherits { element with summary := s.summary }
    let body := if opensBody then some { depth := s.nesting, isInitializer := false } else s.body
    some ({ s with tree, summary := [], body }, node)
  | header => some (s.take boundary header)

/-- Reads the header in front of a boundary and starts the next one behind it. -/
def checkedReadHeader? (s : Scanner) (boundary : Boundary) : Option Scanner := do
  let reading := Header.read (← s.checkedContext? boundary) s.header
  let (taken, node) ← (s.startSpan (s.offset + 1)).checkedTake? boundary reading
  some (taken.moveScope boundary node s.offset)

/-- Meets a boundary character in plain text.  Where it ends no header, the tree is not looked
at. -/
def checkedBoundary? (s : Scanner) (boundary : Boundary) : Option Scanner :=
  if 0 < s.brackets ∨ (boundary = .comma ∧ s.maybeGeneric) then some s
  else
    match s.body with
    | none => (s.counted boundary).checkedReadHeader? boundary
    | some _ => some (s.boundary boundary)

/-- Reads one character.  Only a boundary in structural text can look at the tree. -/
def checkedStep? (s : Scanner) (c : Char) : Option Scanner :=
  match Boundary.ofChar? c with
  | none => some (s.step c)
  | some boundary =>
    if s.readsPlain c then
      ({ s with mode := .plain }.checkedBoundary? boundary).map (keep · c)
    else some (s.step c)

/-- Reads a text. -/
def checkedScan? (s : Scanner) (t : Text) : Option Scanner :=
  t.foldlM checkedStep? s

variable {s : Scanner}

/-- The check passes for a grounded scanner: the current node is there. -/
theorem Grounded.checkedContext?_eq (h : s.Grounded) (boundary : Boundary) :
    s.checkedContext? boundary = some (s.context boundary) := by
  rw [checkedContext?, Tree.checkedElement?_eq h.current_lt,
    h.wellFormed.checkedLast?_eq h.current_lt]
  simp only [Option.bind_eq_bind, Option.bind_some, Option.map_bind]
  rfl

/-- The checks pass for a header that declares a fresh element. -/
theorem Grounded.checkedTake?_eq (h : s.Grounded) (boundary : Boundary) (header : Header)
    (hfresh : ∀ element opensBody, header = .declaration element opensBody →
      Header.Fresh element) :
    s.checkedTake? boundary header = some (s.take boundary header) := by
  cases header with
  | importing => rfl
  | initializer => rfl
  | nothing => rfl
  | declaration element opensBody =>
      let documented : Element := { element with summary := s.summary }
      have hspaced : DisplayName.Spaced documented.name :=
        (hfresh element opensBody rfl).proper.spaced
      rw [checkedTake?, h.wellFormed.checkedDeclare?_eq h.current_lt _ hspaced]
      rfl

/-- The checks pass for every header that a grounded scanner reads. -/
theorem Grounded.checkedReadHeader?_eq (h : s.Grounded) (boundary : Boundary) :
    s.checkedReadHeader? boundary = some (s.readHeader boundary) := by
  have hspan : (s.startSpan (s.offset + 1)).Grounded := h.congr rfl rfl rfl
  have htake := hspan.checkedTake?_eq boundary (Header.read (s.context boundary) s.header)
    fun _ _ heq => Header.fresh_of_read heq
  simp only [checkedReadHeader?, h.checkedContext?_eq, htake, Option.bind_eq_bind,
    Option.bind_some]
  rfl

/-- The checks pass for every boundary that a grounded scanner meets. -/
theorem Grounded.checkedBoundary?_eq (h : s.Grounded) (boundary : Boundary) :
    s.checkedBoundary? boundary = some (s.boundary boundary) := by
  have hcounted : (s.counted boundary).Grounded := h.congr rfl rfl rfl
  rw [checkedBoundary?]
  split_ifs with hactive
  · rw [Scanner.boundary, if_pos hactive]
  · rcases hbody : s.body with _ | body
    · rw [boundary_of_outside hactive hbody]
      exact hcounted.checkedReadHeader?_eq boundary
    · rfl

/-- **One character** looks at nodes that are there. -/
theorem Grounded.checkedStep?_eq (h : s.Grounded) (c : Char) :
    s.checkedStep? c = some (s.step c) := by
  rw [checkedStep?]
  rcases hboundary : Boundary.ofChar? c with _ | b
  · rfl
  · have hplain : { s with mode := .plain }.Grounded := h.congr rfl rfl rfl
    obtain rfl := Boundary.eq_char_of_ofChar? hboundary
    dsimp only
    split_ifs with hreads
    · rw [hplain.checkedBoundary?_eq, step_of_readsPlain hreads]
      rfl
    · rfl

/-- **A text** looks at nodes that are there. -/
theorem Grounded.checkedScan?_eq (h : s.Grounded) (t : Text) :
    s.checkedScan? t = some (s.scan t) := by
  induction t generalizing s with
  | nil => rfl
  | cons c t ih =>
      rw [checkedScan?, List.foldlM_cons, h.checkedStep?_eq]
      exact ih (h.step c)

/-- The nodes that a header read here is compared with: the current one and those below it. -/
def lookedAt (s : Scanner) : List NodeId :=
  s.current :: s.tree.children s.current

/-- A header is compared with nodes of the tree only. -/
theorem Grounded.lookedAt_lt (h : s.Grounded) : ∀ id ∈ s.lookedAt, id < s.tree.size := by
  intro id hid
  rcases List.mem_cons.1 hid with rfl | hchild
  · exact h.current_lt
  · exact (h.wellFormed.child _ id hchild).2

end Scanner

namespace Tree

/-- Adds the declarations of a source below a node of a tree. -/
def checkedRead? (tree : Tree) (base : NodeId) (symbols : Symbols) (t : Text) : Option Reading := do
  let s := (← (Scanner.start tree base symbols).checkedScan? t).endOfSource
  some { tree := s.tree, symbols := s.conditions.symbols, fault := s.fault? }

/-- **Reading never fails.**  Whatever was read into a tree, reading any further source below any of
its nodes, with any symbols, looks only at nodes that are there and finds a display name for all it
declares.  Afterwards all names in the tree are proper and all labels are their display names.  At
every place of the source, the nodes that the scanner looks at are nodes of the tree. -/
theorem Reached.checkedRead?_eq {tree : Tree} (h : tree.Reached) {base : Nat}
    (hbase : base < tree.size) (symbols : Symbols) (t : Text) :
    tree.checkedRead? base symbols t = some (tree.read base symbols t) ∧
      (∀ (id : NodeId) (name : Text), (tree.read base symbols t).tree.name? id = some name →
        Header.ProperName name ∧
          DisplayName.ofName? name = some ((tree.read base symbols t).tree.label id)) ∧
      ∀ front back, t = front ++ back →
        ∀ id ∈ ((Scanner.start tree base symbols).scan front).lookedAt,
          id < ((Scanner.start tree base symbols).scan front).tree.size := by
  obtain ⟨hwf, hunmarked⟩ := h.wellFormed_and_unmarked
  have hstart := Scanner.grounded_start hwf hunmarked hbase symbols
  have hread := h.read base hbase symbols t
  refine ⟨?_, ?_, ?_⟩
  · rw [checkedRead?, hstart.checkedScan?_eq]
    rfl
  · intro id name hname
    refine ⟨hread.proper id name hname, ?_⟩
    obtain ⟨element, helement, rfl⟩ := Option.map_eq_some_iff.1 hname
    exact hread.wellFormed_and_unmarked.1.label id element helement
  · intro front back ht
    exact (hstart.scan front).lookedAt_lt

/-- A method with wide blanks, read below the class of another source. -/
def wideBlanks : Text :=
  "int\u3000N(int\u00a0x,\u2003string\u3000 y);"

/-- The method with wide blanks is read, and its label has the types of its parameters. -/
theorem checkedRead?_wideBlanks :
    afterTwoSources.Reached ∧ 1 < afterTwoSources.size ∧
      afterTwoSources.checkedRead? 1 {} wideBlanks = some (afterTwoSources.read 1 {} wideBlanks) ∧
      (afterTwoSources.read 1 {} wideBlanks).tree.name? 6 = some "N(int x, string y)" ∧
      (afterTwoSources.read 1 {} wideBlanks).tree.label 6 = "N(int, string)" := by
  have hreached : afterTwoSources.Reached :=
    ((Reached.ofLabel _).read root (by decide) _ _).read 1 (by decide +kernel) _ _
  have hlt : 1 < afterTwoSources.size := by decide +kernel
  exact ⟨hreached, hlt, (hreached.checkedRead?_eq hlt {} wideBlanks).1, by decide +kernel,
    by decide +kernel⟩

-- below a number without a node the checks do fail
example : (ofLabel "Test").checkedRead? 1 {} "int a;" = none := by decide +kernel

end Tree

end DeclAtlas
