import Mathlib
import DeclAtlas.Proofs.Reader.Relation
import DeclAtlas.Proofs.Scanner.Growth
import DeclAtlas.Proofs.Scanner.Stream

/-!
# Reading a source again

Reading a source into the tree that it has already built finds every declaration in its place, so
only documentation is added.  There is one way out of this.  A block behind a header that only
assigns, such as `= new[] \x7b`, is passed over if the last element in its place is a property, and
is read otherwise.  In the first reading that element is the one in front of the block; in the
second one it is the last element of the finished container.

* `Tree.Settled`: at every such block the element in front of it is a property exactly if the last
  element of its container is.
* **Theorem** (`Tree.Reached.read_again`): a settled source adds no node when it is read again, and
  the second reading ends with the same fault or none.
* `Tree.read_again_initializer`: a source that is not settled, with an array as the value of a
  property in front of another member.

Both readings see the same text, so the scanners agree in everything but their trees
(`Scanner.withTree`).  The first tree is extended by the final one at every point
(`Scanner.extendedBy_scan`), and the second tree keeps the shape of the final one
(`Tree.SameShape`), so what the first scanner declares the second one finds
(`Scanner.take_withTree`).
-/

namespace DeclAtlas

/-! ## Trees of one shape -/

namespace Tree

/-- The kind of the element that was declared last below a node. -/
def lastKind? (tree : Tree) (id : NodeId) : Option Kind :=
  (tree.lastChild? id).bind tree.kind?

/-- The second tree has the nodes of the first one, with the same names and kinds. -/
structure SameShape (a b : Tree) : Prop where
  /-- As many nodes. -/
  size : b.size = a.size
  /-- The same nodes below each node. -/
  children : ∀ id, b.children id = a.children id
  /-- The same names. -/
  name : ∀ id, b.name? id = a.name? id
  /-- The same kinds. -/
  kind : ∀ id, b.kind? id = a.kind? id

theorem SameShape.refl (tree : Tree) : tree.SameShape tree :=
  ⟨rfl, fun _ => rfl, fun _ => rfl, fun _ => rfl⟩

/-- Documentation does not change the shape. -/
theorem SameShape.appendSummary {a b : Tree} (h : a.SameShape b) (target : NodeId)
    (summary : Text) : a.SameShape (b.appendSummary target summary) where
  size := by rw [Tree.appendSummary, size_modifyElement, h.size]
  children id := by rw [Tree.appendSummary, children_modifyElement, h.children]
  name id := by
    rw [Tree.appendSummary, name?_modifyElement, h.name]
    intro element
    rfl
  kind id := by
    rw [← h.kind, Tree.appendSummary, kind?, kind?, element?_modifyElement]
    split_ifs
    · rw [Option.map_map]
      rfl
    · rfl

/-- Trees of the same shape have the same children under the same names. -/
theorem SameShape.findChild? {a b : Tree} (h : a.SameShape b) (parent : NodeId) (name : Text) :
    b.findChild? parent name = a.findChild? parent name := by
  unfold Tree.findChild?
  simp only [isNamed_eq, h.children, h.name]

/-- Trees of the same shape have elements of the same kind declared last. -/
theorem SameShape.lastKind? {a b : Tree} (h : a.SameShape b) (id : NodeId) :
    b.lastKind? id = a.lastKind? id := by
  unfold Tree.lastKind? lastChild?
  rw [h.children]
  cases (a.children id).getLast? with
  | none => rfl
  | some last => exact h.kind last

end Tree

/-! ## One header in two places -/

namespace Header

/-- Two readings of a header that lead to the same node if its name is already declared. -/
inductive Matches : Header → Header → Prop
  | importing : Matches .importing .importing
  | initializer : Matches .initializer .initializer
  | nothing : Matches .nothing .nothing
  | declaration {a b : Element} (name : b.name = a.name) (opensBody : Bool) :
      Matches (.declaration a opensBody) (.declaration b opensBody)

/-- The same parts are read as matching headers in front of the same boundary. -/
theorem Parts.matches_declare (parts : Parts) {context context' : HeaderContext}
    (hboundary : context'.boundary = context.boundary) :
    Matches (parts.declare context) (parts.declare context') := by
  obtain ⟨boundary, parent, previous⟩ := context
  obtain ⟨_, parent', previous'⟩ := context'
  cases hboundary
  unfold Parts.declare
  split_ifs
  · exact .nothing
  · refine .declaration ?_ _
    rfl

/-- Of the place of a header, only what stands in front of an assigned block matters to whether
and under which name it declares something. -/
theorem matches_read {context context' : HeaderContext} {t : Text}
    (hboundary : context'.boundary = context.boundary)
    (hprevious : context.boundary = .opening → isAssignment (stripComments t) = true →
      (context.previous = some .property ↔ context'.previous = some .property)) :
    Matches (read context t) (read context' t) := by
  unfold read
  extract_lets stripped
  by_cases himport : isImport stripped = true
  · rw [if_pos himport, if_pos himport]
    exact .importing
  rw [if_neg himport, if_neg himport, hboundary]
  by_cases hassigns : context.boundary = .opening ∧ isAssignment stripped = true
  · have hiff := hprevious hassigns.1 hassigns.2
    by_cases hproperty : context.previous = some .property
    · rw [if_pos ⟨hassigns.1, hassigns.2, hproperty⟩,
        if_pos ⟨hassigns.1, hassigns.2, hiff.1 hproperty⟩]
      exact .initializer
    · rw [if_neg fun h => hproperty h.2.2, if_neg fun h => hproperty (hiff.2 h.2.2)]
      exact (parts stripped).matches_declare hboundary
  · rw [if_neg fun h => hassigns ⟨h.1, h.2.1⟩, if_neg fun h => hassigns ⟨h.1, h.2.1⟩]
    exact (parts stripped).matches_declare hboundary

end Header

/-! ## Scanners that differ in their trees -/

namespace Scanner

/-- The scanner with another tree. -/
def withTree (s : Scanner) (tree : Tree) : Scanner :=
  { s with tree }

/-- Both branches of a case may be taken with another tree. -/
theorem ite_withTree {p : Prop} [Decidable p] {a b a' b' : Scanner} {tree : Tree}
    (ha : a' = a.withTree tree) (hb : b' = b.withTree tree) :
    (if p then a' else b') = (if p then a else b).withTree tree := by
  split_ifs
  · exact ha
  · exact hb

/-- In plain text a character that is no boundary does the same whatever the tree. -/
theorem stepPlain_withTree (s : Scanner) (c : Char) :
    (∃ b, Boundary.ofChar? c = some b ∧ ∀ tree,
        (s.withTree tree).stepPlain c = ({ s with mode := .plain }.withTree tree).boundary b) ∨
      ∀ tree, (s.withTree tree).stepPlain c = (s.stepPlain c).withTree tree := by
  unfold stepPlain
  split
  · exact Or.inr fun _ => rfl
  · exact Or.inr fun _ => rfl
  · exact Or.inr fun _ => rfl
  · exact Or.inr fun _ => ite_withTree rfl rfl
  · exact Or.inl ⟨.comma, rfl, fun _ => rfl⟩
  · exact Or.inl ⟨.semicolon, rfl, fun _ => rfl⟩
  · exact Or.inl ⟨.opening, rfl, fun _ => rfl⟩
  · exact Or.inl ⟨.closing, rfl, fun _ => rfl⟩
  · exact Or.inr fun _ => ite_withTree rfl rfl
  · exact Or.inr fun _ => ite_withTree rfl rfl
  all_goals exact Or.inr fun _ => rfl

/-- Where a character is read as plain text, the tree matters only at a boundary. -/
theorem dispatch_withTree_of_plain {s : Scanner} {c : Char} (hmode : s.mode.isStructural = true)
    (heq : ∀ tree, (s.withTree tree).dispatch c = (s.withTree tree).stepPlain c) :
    (∃ b, Boundary.ofChar? c = some b ∧ s.mode.isStructural = true ∧ ∀ tree,
        (s.withTree tree).dispatch c = ({ s with mode := .plain }.withTree tree).boundary b) ∨
      ∀ tree, (s.withTree tree).dispatch c = (s.dispatch c).withTree tree := by
  have hself : s.dispatch c = s.stepPlain c := heq s.tree
  rcases stepPlain_withTree s c with ⟨b, hb, hall⟩ | hall
  · exact Or.inl ⟨b, hb, hmode, fun tree => (heq tree).trans (hall tree)⟩
  · exact Or.inr fun tree => hself ▸ (heq tree).trans (hall tree)

section step

variable (s : Scanner) (openedAt : Nat) (c : Char) (tree : Tree)

/-- A character of a string does not touch the tree. -/
theorem stepString_withTree (verbatim : Bool) :
    (s.withTree tree).stepString openedAt verbatim c =
      (s.stepString openedAt verbatim c).withTree tree := by
  unfold stepString
  split <;> rfl

/-- A character of a character literal does not touch the tree. -/
theorem stepChar_withTree :
    (s.withTree tree).stepChar openedAt c = (s.stepChar openedAt c).withTree tree := by
  unfold stepChar
  split <;> rfl

/-- A character of a line comment does not touch the tree. -/
theorem stepLineComment_withTree :
    (s.withTree tree).stepLineComment openedAt c =
      (s.stepLineComment openedAt c).withTree tree := by
  unfold stepLineComment
  split
  · exact ite_withTree rfl rfl
  · rfl
  · rfl

/-- A character of a comment for documentation does not touch the tree. -/
theorem stepDocComment_withTree :
    (s.withTree tree).stepDocComment openedAt c =
      (s.stepDocComment openedAt c).withTree tree := by
  unfold stepDocComment
  split <;> rfl

/-- The end of a directive line does not touch the tree. -/
theorem endDirective_withTree (regionStart : Nat) :
    (s.withTree tree).endDirective openedAt regionStart =
      (s.endDirective openedAt regionStart).withTree tree :=
  ite_withTree rfl rfl

/-- A character of a directive line does not touch the tree. -/
theorem stepDirective_withTree (regionStart : Nat) :
    (s.withTree tree).stepDirective openedAt regionStart c =
      (s.stepDirective openedAt regionStart c).withTree tree := by
  unfold stepDirective
  split
  · exact s.endDirective_withTree openedAt tree regionStart
  · rfl

/-- A character of a branch that is left out does not touch the tree. -/
theorem stepSkipped_withTree :
    (s.withTree tree).stepSkipped openedAt c = (s.stepSkipped openedAt c).withTree tree := by
  unfold stepSkipped
  split
  · exact ite_withTree rfl rfl
  · rfl

end step

/-- **What the tree can change about one character**: nothing, unless the character is a boundary in
structural text. -/
theorem dispatch_withTree (s : Scanner) (c : Char) :
    (∃ b, Boundary.ofChar? c = some b ∧ s.mode.isStructural = true ∧ ∀ tree,
        (s.withTree tree).dispatch c = ({ s with mode := .plain }.withTree tree).boundary b) ∨
      ∀ tree, (s.withTree tree).dispatch c = (s.dispatch c).withTree tree := by
  rcases s with ⟨source, tree, base, conditions, mode, lineBlank, spanStart, excluded, summary,
    brackets, bracketOpenedAt, maybeGeneric, nesting, body, scopes⟩
  cases mode with
  | plain => exact dispatch_withTree_of_plain rfl fun _ => rfl
  | slash =>
      by_cases hc : c = '/' ∨ c = '*'
      · rcases hc with rfl | rfl <;> exact Or.inr fun _ => rfl
      · rw [not_or] at hc
        exact dispatch_withTree_of_plain rfl fun _ => stepSlash.eq_3 _ _ hc.1 hc.2
  | verbatimQuote openedAt =>
      by_cases hc : c = '"'
      · subst hc
        exact Or.inr fun _ => rfl
      · exact dispatch_withTree_of_plain rfl fun _ => stepVerbatimQuote.eq_2 _ _ _ hc
  | string openedAt verbatim => exact Or.inr fun tree => stepString_withTree _ _ _ tree _
  | char openedAt => exact Or.inr fun tree => stepChar_withTree _ _ _ tree
  | lineComment openedAt => exact Or.inr fun tree => stepLineComment_withTree _ _ _ tree
  | docComment openedAt => exact Or.inr fun tree => stepDocComment_withTree _ _ _ tree
  | blockComment openedAt => exact Or.inr fun _ => ite_withTree rfl rfl
  | directive lineStart regionStart =>
      exact Or.inr fun tree => stepDirective_withTree _ _ _ tree _
  | skipped regionStart => exact Or.inr fun tree => stepSkipped_withTree _ _ _ tree
  | stringEscape => exact Or.inr fun _ => rfl
  | charEscape => exact Or.inr fun _ => rfl
  | brokenChar => exact Or.inr fun _ => rfl

/-- The end of a source does the same whatever the tree. -/
theorem endOfSource_withTree (s : Scanner) (tree : Tree) :
    (s.withTree tree).endOfSource = s.endOfSource.withTree tree := by
  rcases s with ⟨source, tree', base, conditions, mode, lineBlank, spanStart, excluded, summary,
    brackets, bracketOpenedAt, maybeGeneric, nesting, body, scopes⟩
  cases mode with
  | directive lineStart regionStart => exact endDirective_withTree _ _ tree _
  | _ => rfl

/-! ## The second reading -/

section again

variable {s : Scanner} {final tree : Tree}

/-- What the first reading declares, the second one finds. -/
theorem take_withTree (hs : s.Grounded) (hshape : final.SameShape tree) {boundary : Boundary}
    {header header' : Header} (hheader : Header.Matches header header')
    (htaken : (s.take boundary header).1.Grounded)
    (hext : (s.take boundary header).1.tree.ExtendedBy final) :
    ∃ tree', final.SameShape tree' ∧
      (s.withTree tree).take boundary header' =
        ((s.take boundary header).1.withTree tree', (s.take boundary header).2) := by
  cases hheader with
  | importing => exact ⟨tree, hshape, rfl⟩
  | initializer => exact ⟨tree, hshape, rfl⟩
  | nothing => exact ⟨tree, hshape, rfl⟩
  | @declaration a b hname opensBody =>
      let inherits (element : Element) : Bool := element.type.isAbsent && boundary != .opening
      let node := (s.take boundary (.declaration a opensBody)).2
      have hfound :
          (s.take boundary (.declaration a opensBody)).1.tree.findChild? s.current a.name =
            some node :=
        Tree.findChild?_declare hs.wellFormed hs.current_lt (inherits a)
          { a with summary := s.summary }
      have hnamed : tree.findChild? s.current b.name = some node := by
        rw [hname, hshape.findChild?, hext.findChild? htaken.wellFormed hfound]
      have hagain : tree.declare s.current (inherits b) { b with summary := s.summary } =
          (tree.appendSummary node s.summary, node) := by
        rw [Tree.declare_of_some]
        exact hnamed
      have hsecond : (s.withTree tree).take boundary (.declaration b opensBody) =
          ((s.take boundary (.declaration a opensBody)).1.withTree
              (tree.declare s.current (inherits b) { b with summary := s.summary }).1,
            (tree.declare s.current (inherits b) { b with summary := s.summary }).2) := rfl
      rw [hagain] at hsecond
      exact ⟨_, hshape.appendSummary node s.summary, hsecond⟩

/-- Entering and leaving scopes does not touch the tree. -/
theorem moveScope_withTree (s : Scanner) (boundary : Boundary) (node : NodeId) (openedAt : Nat)
    (tree : Tree) :
    (s.withTree tree).moveScope boundary node openedAt =
      (s.moveScope boundary node openedAt).withTree tree := by
  cases boundary <;> rfl

/-- A header is read again into a tree that has all it declares, and the shape is kept. -/
theorem readHeader_withTree (hs : s.Grounded) (hshape : final.SameShape tree) (boundary : Boundary)
    (hext : (s.readHeader boundary).tree.ExtendedBy final)
    (hsettled : boundary = .opening →
      Header.isAssignment (Header.stripComments s.header) = true →
      (s.tree.lastKind? s.current = some .property ↔
        final.lastKind? s.current = some .property)) :
    ∃ tree', final.SameShape tree' ∧
      (s.withTree tree).readHeader boundary = (s.readHeader boundary).withTree tree' := by
  have hspan : (s.startSpan (s.offset + 1)).Grounded := hs.congr rfl rfl rfl
  have hmatches : Header.Matches (Header.read (s.context boundary) s.header)
      (Header.read ((s.withTree tree).context boundary) s.header) := by
    have hboundary :
        ((s.withTree tree).context boundary).boundary = (s.context boundary).boundary := rfl
    refine Header.matches_read hboundary fun hopening hassigns => ?_
    rw [← hshape.lastKind?] at hsettled
    exact hsettled hopening hassigns
  have htaken := (hspan.take boundary (Header.read (s.context boundary) s.header)
    fun _ _ heq => Header.fresh_of_read heq).1
  have hgrown : ((s.startSpan (s.offset + 1)).take boundary
      (Header.read (s.context boundary) s.header)).1.tree.ExtendedBy final := by
    rwa [readHeader, tree_moveScope] at hext
  obtain ⟨tree', hshape', heq⟩ := take_withTree hspan hshape hmatches htaken hgrown
  refine ⟨tree', hshape', ?_⟩
  have hsecond : (s.withTree tree).readHeader boundary =
      (((s.startSpan (s.offset + 1)).withTree tree).take boundary
        (Header.read ((s.withTree tree).context boundary) s.header)).1.moveScope boundary
        (((s.startSpan (s.offset + 1)).withTree tree).take boundary
          (Header.read ((s.withTree tree).context boundary) s.header)).2 s.offset := rfl
  rw [hsecond, heq, moveScope_withTree]
  rfl

/-- The scanner stands behind a header that only assigns, and a brace would open its block. -/
def Assigns (s : Scanner) : Prop :=
  s.mode.isStructural = true ∧ s.brackets = 0 ∧ s.body = none ∧
    Header.isAssignment (Header.stripComments s.header) = true

instance (s : Scanner) : Decidable s.Assigns :=
  inferInstanceAs (Decidable (_ ∧ _ ∧ _ ∧ _))

/-- A boundary is met again with a tree that has all it declares, and the shape is kept. -/
theorem boundary_withTree (hs : s.Grounded) (hshape : final.SameShape tree) (boundary : Boundary)
    (hmode : s.mode.isStructural = true)
    (hext : (s.boundary boundary).tree.ExtendedBy final)
    (hsettled : boundary = .opening → s.Assigns →
      (s.tree.lastKind? s.current = some .property ↔
        final.lastKind? s.current = some .property)) :
    ∃ tree', final.SameShape tree' ∧
      (s.withTree tree).boundary boundary = (s.boundary boundary).withTree tree' := by
  by_cases hinert : 0 < s.brackets ∨ (boundary = .comma ∧ s.maybeGeneric = true)
  · have hsame : s.boundary boundary = s := if_pos hinert
    rw [hsame]
    exact ⟨tree, hshape, if_pos hinert⟩
  · cases hbody : s.body with
    | none =>
        rw [boundary_of_outside hinert hbody] at hext ⊢
        rw [boundary_of_outside (s := s.withTree tree) hinert hbody]
        have hcounted : (s.counted boundary).Grounded := hs.congr rfl rfl rfl
        refine readHeader_withTree hcounted hshape boundary hext fun hopening hassigns => ?_
        refine hsettled hopening ⟨hmode, ?_, hbody, hassigns⟩
        by_contra hne
        exact hinert (Or.inl (Nat.pos_of_ne_zero hne))
    | some body =>
        rw [boundary_of_inside hinert hbody]
        refine ⟨tree, hshape, ?_⟩
        rw [boundary_of_inside (s := s.withTree tree) hinert hbody]
        exact ite_withTree rfl rfl

/-- **One character** is read again with the same effect on everything but the documentation. -/
theorem step_withTree (hs : s.Grounded) (hshape : final.SameShape tree) {c : Char}
    (hext : (s.step c).tree.ExtendedBy final)
    (hsettled : c = '\x7b' → s.Assigns →
      (s.tree.lastKind? s.current = some .property ↔
        final.lastKind? s.current = some .property)) :
    ∃ tree', final.SameShape tree' ∧ (s.withTree tree).step c = (s.step c).withTree tree' := by
  rcases dispatch_withTree s c with ⟨b, hb, hmode, hall⟩ | hall
  · have hfirst : s.dispatch c = { s with mode := .plain }.boundary b := hall s.tree
    have hext : ({ s with mode := .plain }.boundary b).tree.ExtendedBy final := hfirst ▸ hext
    have hplain : Scanner.Grounded { s with mode := .plain } := hs.congr rfl rfl rfl
    obtain ⟨tree', hshape', heq⟩ := boundary_withTree hplain hshape b rfl hext
      fun hopening hassigns =>
        hsettled (Boundary.eq_char_of_ofChar? (hopening ▸ hb)) ⟨hmode, hassigns.2⟩
    refine ⟨tree', hshape', ?_⟩
    rw [step, step, hall tree, heq, hfirst]
    rfl
  · refine ⟨tree, hshape, ?_⟩
    rw [step, step, hall tree]
    rfl

/-- **A text** is read again with the same effect on everything but the documentation. -/
theorem scan_withTree (hs : s.Grounded) (hshape : final.SameShape tree) (t : Text)
    (hext : (s.scan t).tree.ExtendedBy final)
    (hsettled : ∀ n < t.length, t[n]? = some '\x7b' → (s.scan (t.take n)).Assigns →
      ((s.scan (t.take n)).tree.lastKind? (s.scan (t.take n)).current = some .property ↔
        final.lastKind? (s.scan (t.take n)).current = some .property)) :
    ∃ tree', final.SameShape tree' ∧ (s.withTree tree).scan t = (s.scan t).withTree tree' := by
  induction t generalizing s tree with
  | nil => exact ⟨tree, hshape, rfl⟩
  | cons c t ih =>
      have hstep : (s.step c).tree.ExtendedBy final := ((s.step c).extendedBy_scan t).trans hext
      obtain ⟨tree', hshape', heq⟩ := step_withTree hs hshape hstep fun hc =>
        hsettled 0 (Nat.succ_pos _) (hc ▸ rfl)
      obtain ⟨tree'', hshape'', heq'⟩ := ih (hs.step c) hshape' hext fun n hn hc =>
        hsettled (n + 1) (Nat.succ_lt_succ hn) hc
      refine ⟨tree'', hshape'', ?_⟩
      calc (s.withTree tree).scan (c :: t)
          = ((s.withTree tree).step c).scan t := rfl
        _ = ((s.step c).withTree tree').scan t := by rw [heq]
        _ = (s.scan (c :: t)).withTree tree'' := heq'

end again

end Scanner

namespace Tree

variable (tree : Tree) (base : NodeId) (symbols : Symbols) (t : Text)

/-- At every block that the source assigns, the element in front of the block is a property exactly
if the last element of its container is one in the end. -/
def Settled : Prop :=
  ∀ n < t.length, t[n]? = some '\x7b' →
    ((Scanner.start tree base symbols).scan (t.take n)).Assigns →
    (((Scanner.start tree base symbols).scan (t.take n)).tree.lastKind?
          ((Scanner.start tree base symbols).scan (t.take n)).current = some .property ↔
      (tree.read base symbols t).tree.lastKind?
          ((Scanner.start tree base symbols).scan (t.take n)).current = some .property)

instance : Decidable (tree.Settled base symbols t) :=
  inferInstanceAs (Decidable (∀ n < t.length, _))

variable {tree base t}

/-- **Reading again adds nothing** if the source is settled: no node, no child and no fault.  All
that can change is the documentation of the nodes. -/
theorem Reached.read_again (h : tree.Reached) (hbase : base < tree.size)
    (hsettled : tree.Settled base symbols t) :
    ((tree.read base symbols t).tree.read base symbols t).fault = (tree.read base symbols t).fault ∧
      ((tree.read base symbols t).tree.read base symbols t).tree.size =
        (tree.read base symbols t).tree.size ∧
      ∀ id, ((tree.read base symbols t).tree.read base symbols t).tree.children id =
        (tree.read base symbols t).tree.children id := by
  obtain ⟨hwf, hunmarked⟩ := h.wellFormed_and_unmarked
  have hstart : (Scanner.start tree base symbols).Grounded :=
    ⟨hwf, hunmarked, hbase, fun _ hscope => absurd hscope List.not_mem_nil⟩
  have hext : ((Scanner.start tree base symbols).scan t).tree.ExtendedBy
      (tree.read base symbols t).tree := by
    rw [tree_read_eq_scan]
    exact .refl _
  obtain ⟨final, hshape, heq⟩ :=
    Scanner.scan_withTree hstart (.refl (tree.read base symbols t).tree) t hext hsettled
  have hagain : (Scanner.start (tree.read base symbols t).tree base symbols).scan t =
      ((Scanner.start tree base symbols).scan t).withTree final := heq
  have hfault : ((tree.read base symbols t).tree.read base symbols t).fault =
      (tree.read base symbols t).fault := by
    change
      ((Scanner.start (tree.read base symbols t).tree base symbols).scan t).endOfSource.fault? = _
    rw [hagain, Scanner.endOfSource_withTree]
    rfl
  rw [tree_read_eq_scan (tree.read base symbols t).tree, hagain]
  exact ⟨hfault, hshape.size, hshape.children⟩

/-- A source with an array as the value of a property, in front of another member. -/
def arraySource : Text :=
  "class A \x7b int[] P \x7b get; \x7d = new[] \x7b 1, 2 \x7d; int q; \x7d"

/-- When it is read again, the array is taken for declarations. -/
theorem read_again_initializer :
    ((ofLabel "Test").read root {} arraySource).fault = none ∧
      ((ofLabel "Test").read root {} arraySource).tree.children 1 = [2, 3] ∧
      (((ofLabel "Test").read root {} arraySource).tree.read root {} arraySource).tree.children 1 =
        [2, 3, 4, 5] ∧
      ¬ (ofLabel "Test").Settled root {} arraySource := by
  decide +kernel

/-- A source in which a property with an array is the last member. -/
def settledSource : Text :=
  "class A \x7b int q; int[] P \x7b get; \x7d = new[] \x7b 1, 2 \x7d; \x7d class A \x7b int q; \x7d"

/-- The settled source is read twice, and the second time adds no nodes. -/
theorem read_again_settledSource :
    (ofLabel "Test").Settled root {} settledSource ∧
      ((ofLabel "Test").read root {} settledSource).fault = none ∧
      (((ofLabel "Test").read root {} settledSource).tree.read root {} settledSource).fault = none ∧
      (((ofLabel "Test").read root {} settledSource).tree.read root {} settledSource).tree.size =
        4 := by
  have hsettled : (ofLabel "Test").Settled root {} settledSource := by decide +kernel
  have hfault : ((ofLabel "Test").read root {} settledSource).fault = none := by decide +kernel
  have hsize : ((ofLabel "Test").read root {} settledSource).tree.size = 4 := by decide +kernel
  obtain ⟨hagain, hsame, -⟩ := (Reached.ofLabel "Test").read_again {} (by decide) hsettled
  exact ⟨hsettled, hfault, hagain.trans hfault, hsame.trans hsize⟩

end Tree

end DeclAtlas
