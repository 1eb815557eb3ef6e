import Mathlib
import DeclAtlas.Proofs.Reader.Counting
import DeclAtlas.Proofs.Scanner.Opening

/-!
# Blocks in step with braces

The scanner counts the open braces, keeps the open blocks with their nodes and offsets, and
remembers the body that it passes over.

* `Scanner.InStep`: how these go together behind a text.
* `Scanner.Balanced`: texts in which every brace that counts has its partner.
* **Theorem** (`Scanner.inStep_scan`): behind every text all is in step, and a closing brace that
  closes an opening one restores the node that received declarations in front of the two.

The counts are those of the reader that goes with the scanner (`Scanner.Tracked`).  That each block
is for the node of the block around it or for one of its children is an invariant of its own
(`Scanner.Linked`), which a boundary keeps because a header declares nothing but children of the
current node.  Where a block was opened is known from `Scanner.exists_opening`.
-/

namespace DeclAtlas

/-- A declared node is a child of the node that receives it. -/
theorem Tree.declare_mem_children {tree : Tree} {parent : NodeId} (hparent : parent < tree.size)
    (inherits : Bool) (element : Element) :
    (tree.declare parent inherits element).2 ∈
        (tree.declare parent inherits element).1.children parent ∧
      (tree.declare parent inherits element).2 < (tree.declare parent inherits element).1.size := by
  rcases hfind : tree.findChild? parent element.name with _ | existing
  · rw [declare_of_none hfind, children_addChild _ hparent, if_pos rfl, size_addChild]
    exact ⟨List.mem_append_right _ List.mem_cons_self, Nat.lt_succ_self tree.size⟩
  · rw [declare_of_some hfind, appendSummary, children_modifyElement, size_modifyElement]
    refine ⟨List.mem_of_find?_eq_some hfind, ?_⟩
    by_contra hout
    have hnamed : tree.isNamed existing element.name = true :=
      List.find?_some (p := fun child => tree.isNamed child element.name) hfind
    rw [isNamed, element?, node?_eq_none_iff.2 (Nat.le_of_not_lt hout)] at hnamed
    cases hnamed

namespace Scanner

/-! ## Counts -/

/-- The scanner reads on as a reader whose counts are in step. -/
def Tracked (s : Scanner) : Prop :=
  ∃ r : Reader, s.ReadsAs r ∧ r.Counted

/-- The counts are in step at the start. -/
theorem tracked_start (tree : Tree) (base : NodeId) (symbols : Symbols) :
    (start tree base symbols).Tracked :=
  ⟨_, readsAs_start tree base symbols, Reader.counted_start tree base symbols⟩

/-- The counts stay in step behind every text. -/
theorem Tracked.scan {s : Scanner} (h : s.Tracked) (t : Text) : (s.scan t).Tracked := by
  obtain ⟨r, hreads, hcounted⟩ := h
  exact ⟨r.scan t, hreads.scan t, Reader.counted_scan hcounted t⟩

/-- Outside a body every open brace is that of a block. -/
theorem Tracked.outside {s : Scanner} (h : s.Tracked) (hbody : s.body = none) :
    s.nesting = s.scopes.length := by
  obtain ⟨r, ⟨-, -, rfl⟩, hcounted⟩ := h
  exact (hcounted.outside hbody).trans (List.length_map Scope.node)

/-- Inside a body the blocks are those that were open in front of it. -/
theorem Tracked.inside {s : Scanner} (h : s.Tracked) {body : Body} (hbody : s.body = some body) :
    s.brackets = 0 ∧ s.scopes.length = body.depth ∧ 1 ≤ body.depth ∧ body.depth ≤ s.nesting := by
  obtain ⟨r, ⟨-, -, rfl⟩, hcounted⟩ := h
  obtain ⟨hbrackets, hlength, hpos, hdepth⟩ := hcounted.inside body hbody
  exact ⟨hbrackets, (List.length_map Scope.node).symm.trans hlength, hpos, hdepth⟩

/-! ## Nodes -/

/-- The nodes of the open blocks are nodes of the tree, each the node of the block around it or one
of its children. -/
structure Linked (s : Scanner) : Prop where
  /-- The node that receives declarations outside all blocks. -/
  base : s.base < s.tree.size
  /-- The nodes of the open blocks. -/
  nodes : ∀ scope ∈ s.scopes, scope.node < s.tree.size
  /-- From each node to the next one outwards. -/
  chain : (s.scopes.map Scope.node ++ [s.base]).IsChain fun inner outer =>
    inner = outer ∨ inner ∈ s.tree.children outer

/-- Only tree and blocks matter for the nodes of the blocks. -/
theorem Linked.of_sameStructure {s t : Scanner} (h : s.Linked) (hst : SameStructure s t) :
    t.Linked := by
  refine ⟨?_, ?_, ?_⟩
  · rw [hst.base, hst.tree]
    exact h.base
  · rw [hst.scopes, hst.tree]
    exact h.nodes
  · rw [hst.scopes, hst.base, hst.tree]
    exact h.chain

/-- The nodes stay linked in a tree that has grown. -/
theorem Linked.of_extendedBy {s t : Scanner} (h : s.Linked) (htree : s.tree.ExtendedBy t.tree)
    (hbase : t.base = s.base) (hscopes : t.scopes = s.scopes) : t.Linked := by
  refine ⟨?_, ?_, ?_⟩
  · rw [hbase]
    exact Nat.lt_of_lt_of_le h.base htree.size_le
  · rw [hscopes]
    exact fun scope hscope => Nat.lt_of_lt_of_le (h.nodes scope hscope) htree.size_le
  · rw [hscopes, hbase]
    refine h.chain.imp ?_
    intro inner outer hlink
    exact hlink.imp_right fun hchild => (htree.children outer).subset hchild

/-- The innermost node is the current one. -/
theorem head?_nodes (s : Scanner) :
    (s.scopes.map Scope.node ++ [s.base]).head? = some s.current := by
  unfold current
  cases s.scopes <;> rfl

/-- The current node is a node of the tree. -/
theorem Linked.current_lt {s : Scanner} (h : s.Linked) : s.current < s.tree.size := by
  unfold current
  split
  · exact h.base
  · rename_i scope outer heq
    exact h.nodes scope (heq ▸ List.mem_cons_self)

/-- A header leads to the current node or to one of its children. -/
theorem Linked.take {s : Scanner} (h : s.Linked) (b : Boundary) (header : Header) :
    (s.take b header).1.Linked ∧ (s.take b header).2 < (s.take b header).1.tree.size ∧
      ((s.take b header).2 = s.current ∨
        (s.take b header).2 ∈ (s.take b header).1.tree.children s.current) := by
  have htaken : (s.take b header).1.Linked := by
    refine h.of_extendedBy (s.extendedBy_take b header) ?_ (s.scopes_take b header)
    cases header <;> rfl
  refine ⟨htaken, ?_⟩
  cases header with
  | importing => exact ⟨h.current_lt, Or.inl rfl⟩
  | initializer => exact ⟨h.current_lt, Or.inl rfl⟩
  | nothing => exact ⟨h.current_lt, Or.inl rfl⟩
  | declaration element opensBody =>
      obtain ⟨hchild, hlt⟩ := Tree.declare_mem_children h.current_lt
        (element.type.isAbsent && b != .opening) { element with summary := s.summary }
      exact ⟨hlt, Or.inr hchild⟩

/-- Leaving a block keeps the nodes of the others linked. -/
theorem Linked.tail {s t : Scanner} (h : s.Linked) (htree : t.tree = s.tree)
    (hbase : t.base = s.base) (hscopes : t.scopes = s.scopes.tail) : t.Linked := by
  refine ⟨?_, ?_, ?_⟩
  · rw [hbase, htree]
    exact h.base
  · rw [hscopes, htree]
    exact fun scope hscope => h.nodes scope (List.mem_of_mem_tail hscope)
  · have hchain := h.chain
    rw [hscopes, hbase, htree]
    cases hs : s.scopes with
    | nil => exact List.isChain_singleton _
    | cons scope outer =>
        rw [hs] at hchain
        exact hchain.tail

/-- Reading a header keeps the nodes of the blocks linked. -/
theorem Linked.readHeader {s : Scanner} (h : s.Linked) (b : Boundary) :
    (s.readHeader b).Linked := by
  have hspan : (s.startSpan (s.offset + 1)).Linked := h.of_sameStructure ⟨rfl, rfl, rfl, rfl, rfl⟩
  let taken := (s.startSpan (s.offset + 1)).take b (Header.read (s.context b) s.header)
  obtain ⟨htaken, hlt, hnode⟩ : taken.1.Linked ∧ taken.2 < taken.1.tree.size ∧
      (taken.2 = s.current ∨ taken.2 ∈ taken.1.tree.children s.current) := hspan.take b _
  have hcurrent : taken.1.current = s.current := by
    have hscopes : taken.1.scopes = s.scopes := scopes_take (s.startSpan (s.offset + 1)) b _
    have hbase : taken.1.base = s.base := by
      change (Scanner.take _ _ _).1.base = _
      cases Header.read (s.context b) s.header <;> rfl
    rw [current, current, hscopes, hbase]
  change (taken.1.moveScope b taken.2 s.offset).Linked
  cases b with
  | opening =>
      refine ⟨htaken.base, ?_, ?_⟩
      · intro scope hscope
        rcases List.mem_cons.1 hscope with rfl | hscope
        · exact hlt
        · exact htaken.nodes scope hscope
      · refine List.isChain_cons.2 ⟨?_, htaken.chain⟩
        intro outer houter
        have houter : taken.1.current = outer :=
          Option.some.inj ((head?_nodes taken.1).symm.trans houter)
        rw [← houter, hcurrent]
        exact hnode
  | closing => exact htaken.tail rfl rfl rfl
  | comma | semicolon => exact htaken

/-- A boundary keeps the nodes of the blocks linked. -/
theorem Linked.boundary {s : Scanner} (h : s.Linked) (b : Boundary) : (s.boundary b).Linked := by
  unfold Scanner.boundary
  split_ifs
  · exact h
  · extract_lets counted
    have hcounted : counted.Linked := h.of_extendedBy (.refl s.tree) rfl rfl
    split
    · exact hcounted.readHeader b
    · split_ifs
      · exact hcounted.tail rfl rfl rfl
      · exact hcounted

/-- One character keeps the nodes linked. -/
theorem Linked.step {s : Scanner} (h : s.Linked) (c : Char) : (s.step c).Linked := by
  refine Linked.of_sameStructure ?_ (sameStructure_keep (s.dispatch c) c)
  rcases dispatch_cases s c with ⟨b, heq⟩ | hsame
  · rw [heq]
    exact (h.of_sameStructure (sameStructure_mode s .plain)).boundary b
  · exact h.of_sameStructure hsame

/-- The nodes of the blocks are linked behind every text. -/
theorem linked_scan {tree : Tree} {base : NodeId} (hbase : base < tree.size) (symbols : Symbols)
    (t : Text) : ((start tree base symbols).scan t).Linked := by
  refine scan_induction (fun _ c hs => hs.step c) ?_ t
  exact ⟨hbase, fun _ hscope => absurd hscope List.not_mem_nil, List.isChain_singleton base⟩

/-! ## Braces that match -/

/-- A brace counts where it is read as structural text outside brackets. -/
def Acts (s : Scanner) (c : Char) : Prop :=
  (c = '\x7b' ∨ c = '\x7d') ∧ s.readsPlain c = true ∧ s.brackets = 0

instance (s : Scanner) (c : Char) : Decidable (s.Acts c) :=
  inferInstanceAs (Decidable (_ ∧ _))

/-- A text in which every brace that counts has its partner. -/
inductive Balanced : Scanner → Text → Prop
  | nil (s : Scanner) : Balanced s []
  | cons {s : Scanner} {c : Char} {t : Text} (hc : ¬ s.Acts c) (ht : Balanced (s.step c) t) :
      Balanced s (c :: t)
  | block {s : Scanner} {t u : Text} (hopens : s.Acts '\x7b') (ht : Balanced (s.step '\x7b') t)
      (hcloses : ((s.step '\x7b').scan t).Acts '\x7d')
      (hu : Balanced (((s.step '\x7b').scan t).step '\x7d') u) :
      Balanced s ('\x7b' :: (t ++ '\x7d' :: u))

/-- The second state has the same blocks and braces open and passes over the same body. -/
structure SameDepth (s t : Scanner) : Prop where
  /-- The same open blocks. -/
  scopes : t.scopes = s.scopes
  /-- The same count of braces. -/
  nesting : t.nesting = s.nesting
  /-- The same body that is passed over. -/
  body : t.body = s.body

/-- States of the same depth may be compared one after the other. -/
theorem SameDepth.trans {s t u : Scanner} (h : SameDepth s t) (h' : SameDepth t u) :
    SameDepth s u :=
  ⟨h'.scopes.trans h.scopes, h'.nesting.trans h.nesting, h'.body.trans h.body⟩

/-- A state of the same structure has the same depth. -/
theorem SameStructure.sameDepth {s t : Scanner} (h : SameStructure s t) : SameDepth s t :=
  ⟨h.scopes, h.nesting, h.body⟩

/-- Reading a header opens and closes no brace. -/
theorem nesting_readHeader (s : Scanner) (b : Boundary) :
    (s.readHeader b).nesting = s.nesting := by
  have htaken : ∀ (s : Scanner) (header : Header), (s.take b header).1.nesting = s.nesting := by
    intro s header
    cases header <;> rfl
  have hmoved : ∀ (s : Scanner) (node : NodeId) (openedAt : Nat),
      (s.moveScope b node openedAt).nesting = s.nesting := by
    intro s node openedAt
    cases b <;> rfl
  exact (hmoved _ _ _).trans (htaken (s.startSpan (s.offset + 1)) _)

/-- Only behind an opening brace does a header lead into a body, and then at the present depth. -/
theorem body_readHeader {s : Scanner} (hbody : s.body = none) (b : Boundary) :
    (s.readHeader b).body = none ∨ b = .opening ∧
      ∃ isInitializer, (s.readHeader b).body = some { depth := s.nesting, isInitializer } := by
  have htakes := Builder.takes_take ((s.startSpan (s.offset + 1)).builder [])
    (show (s.context b).boundary = b from rfl) s.header
  rw [take_builder] at htakes
  have hmoved : ∀ (s : Scanner) (node : NodeId) (openedAt : Nat),
      (s.moveScope b node openedAt).body = s.body := by
    intro s node openedAt
    cases b <;> rfl
  unfold readHeader
  extract_lets reading
  rw [hmoved]
  exact htakes.body.imp_left fun hsame => hsame.trans hbody

/-- Commas and semicolons neither open nor close anything. -/
theorem sameDepth_separator (s : Scanner) {b : Boundary} (hopening : b ≠ .opening)
    (hclosing : b ≠ .closing) : SameDepth s (s.boundary b) := by
  unfold Scanner.boundary
  split_ifs
  · exact ⟨rfl, rfl, rfl⟩
  · extract_lets counted
    have hcount : counted.nesting = s.nesting := by
      cases b with
      | opening => exact absurd rfl hopening
      | closing => exact absurd rfl hclosing
      | comma | semicolon => rfl
    split
    · rename_i hbody
      refine ⟨?_, (counted.nesting_readHeader b).trans hcount, ?_⟩
      · obtain ⟨node, hscopes⟩ := counted.scopes_readHeader b
        cases b with
        | opening => exact absurd rfl hopening
        | closing => exact absurd rfl hclosing
        | comma | semicolon => exact hscopes
      · rcases body_readHeader hbody b with hnone | ⟨rfl, -⟩
        · exact hnone.trans hbody.symm
        · exact absurd rfl hopening
    · rw [if_neg fun hleaves => hclosing hleaves.1]
      exact ⟨rfl, hcount, rfl⟩

/-- A character that is no brace that counts leaves the depth alone. -/
theorem sameDepth_step {s : Scanner} {c : Char} (hc : ¬ s.Acts c) : SameDepth s (s.step c) := by
  refine SameDepth.trans ?_ (sameStructure_keep (s.dispatch c) c).sameDepth
  have heffect := effect_dispatch s c
  generalize s.dispatch c = t at heffect
  cases heffect with
  | @boundary b hb hplain =>
      have hchar := Boundary.eq_char_of_ofChar? hb
      by_cases hbrackets : s.brackets = 0
      · refine (sameStructure_mode s .plain).sameDepth.trans (sameDepth_separator _ ?_ ?_)
        · rintro rfl
          exact hc ⟨Or.inl hchar, hplain, hbrackets⟩
        · rintro rfl
          exact hc ⟨Or.inr hchar, hplain, hbrackets⟩
      · have hinert : 0 < s.brackets ∨ (b = .comma ∧ s.maybeGeneric) :=
          Or.inl (Nat.pos_of_ne_zero hbrackets)
        rw [Scanner.boundary, if_pos hinert]
        exact (sameStructure_mode s .plain).sameDepth
  | openBracket =>
      exact ((sameStructure_mode s .plain).trans (sameStructure_openBracket _)).sameDepth
  | closeBracket => exact ⟨rfl, rfl, rfl⟩
  | none hstructure => exact hstructure.sameDepth

/-! ### Pairs of braces -/

section boundary

variable {s : Scanner} (hbrackets : s.brackets = 0) {b : Boundary} (hb : b ≠ .comma)

include hbrackets hb

/-- A boundary other than a comma is met unless a bracket is open. -/
theorem active_of_brackets : ¬ (0 < s.brackets ∨ (b = .comma ∧ s.maybeGeneric = true)) := by
  rintro (hpos | ⟨hcomma, -⟩)
  · exact absurd hbrackets (Nat.ne_of_gt hpos)
  · exact hb hcomma

/-- A brace inside a body that does not end it is only counted. -/
theorem boundary_of_staying {body : Body} (hbody : s.body = some body)
    (hstays : b = .closing → body.depth ≤ s.nesting - 1) : s.boundary b = s.counted b := by
  rw [boundary_of_inside (active_of_brackets hbrackets hb) hbody, if_neg]
  rintro ⟨rfl, hless⟩
  exact absurd hless (Nat.not_lt.2 (hstays rfl))

end boundary

/-- The second state has one more brace open than the first: that of a block, in which a body may
begin, or one inside the body that is passed over. -/
inductive Entered (s t : Scanner) : Prop
  | block (outside : s.body = none) (nesting : t.nesting = s.nesting + 1)
      (scopes : ∃ scope, t.scopes = scope :: s.scopes)
      (body : ∀ body, t.body = some body → body.depth = t.nesting)
  | inner {body : Body} (outside : s.body = some body) (nesting : t.nesting = s.nesting + 1)
      (scopes : t.scopes = s.scopes) (inside : t.body = some body)

/-- A brace stays open as long as the depth stays the same. -/
theorem Entered.congr {s t u : Scanner} (h : Entered s t) (hsame : SameDepth t u) :
    Entered s u := by
  cases h with
  | block outside nesting scopes body =>
      refine .block outside (hsame.nesting.trans nesting) (hsame.scopes ▸ scopes) ?_
      rw [hsame.body, hsame.nesting]
      exact body
  | inner outside nesting scopes inside =>
      exact .inner outside (hsame.nesting.trans nesting) (hsame.scopes.trans scopes)
        (hsame.body.trans inside)

/-- An opening boundary outside brackets opens a brace. -/
theorem entered_boundary {s t : Scanner} (h : SameDepth s t) (hbrackets : t.brackets = 0) :
    Entered s (t.boundary .opening) := by
  have hcount : (t.counted .opening).nesting = s.nesting + 1 := congrArg (· + 1) h.nesting
  cases hbody : t.body with
  | none =>
      have hnesting := ((t.counted .opening).nesting_readHeader .opening).trans hcount
      obtain ⟨node, hscopes⟩ := (t.counted .opening).scopes_readHeader .opening
      rw [boundary_of_outside (active_of_brackets hbrackets (by decide)) hbody]
      refine .block (h.body.symm.trans hbody) hnesting ?_ ?_
      · exact ⟨_, hscopes.trans (congrArg (_ :: ·) h.scopes)⟩
      · intro body hsome
        rcases body_readHeader (s := t.counted .opening) hbody .opening with
          hnone | ⟨-, isInitializer, hentered⟩
        · rw [hnone] at hsome
          cases hsome
        · rw [hentered] at hsome
          cases hsome
          exact hcount.trans hnesting.symm
  | some body =>
      rw [boundary_of_staying hbrackets (by decide) hbody (by simp)]
      exact .inner (h.body.symm.trans hbody) hcount h.scopes hbody

/-- A closing brace that counts leaves what an opening one has entered. -/
theorem Entered.boundary {s t : Scanner} (h : Entered s t) (hs : s.Tracked)
    (hbrackets : t.brackets = 0) : SameDepth s (t.boundary .closing) := by
  cases h with
  | block outside nesting scopes body =>
      obtain ⟨scope, hscopes⟩ := scopes
      have hcount : (t.counted .closing).nesting = s.nesting := by
        change t.nesting - 1 = s.nesting
        omega
      have htail : t.scopes.tail = s.scopes := by rw [hscopes, List.tail_cons]
      cases hbody : t.body with
      | none =>
          obtain ⟨node, hleft⟩ := (t.counted .closing).scopes_readHeader .closing
          rw [boundary_of_outside (active_of_brackets hbrackets (by decide)) hbody]
          refine ⟨hleft.trans htail, (nesting_readHeader _ _).trans hcount, ?_⟩
          rcases body_readHeader (s := t.counted .closing) hbody .closing with hnone | ⟨hopening, -⟩
          · exact hnone.trans outside.symm
          · cases hopening
      | some inside =>
          have hdepth := body inside hbody
          have hleaves : (t.counted .closing).nesting < inside.depth := by omega
          rw [boundary_of_inside (active_of_brackets hbrackets (by decide)) hbody,
            if_pos ⟨rfl, hleaves⟩]
          exact ⟨htail, hcount, outside.symm⟩
  | @inner body outside nesting scopes inside =>
      have hdepth : body.depth ≤ s.nesting := (hs.inside outside).2.2.2
      have hcount : (t.counted .closing).nesting = s.nesting := by
        change t.nesting - 1 = s.nesting
        omega
      rw [boundary_of_staying hbrackets (by decide) inside (by omega)]
      exact ⟨scopes, hcount, inside.trans outside.symm⟩

/-- In structural text a boundary character is met as a boundary. -/
theorem step_of_readsPlain {s : Scanner} {b : Boundary} (h : s.readsPlain b.char = true) :
    s.step b.char = ({ s with mode := .plain }.boundary b).keep b.char := by
  have hplain : s.dispatch b.char = s.stepPlain b.char := by
    unfold dispatch
    cases hmode : s.mode
    case plain => rfl
    case slash => cases b <;> rfl
    case verbatimQuote => cases b <;> rfl
    all_goals
      rw [readsPlain, hmode] at h
      cases h
  rw [step, hplain]
  cases b <;> rfl

/-- An opening brace that counts opens a brace. -/
theorem entered_step {s : Scanner} (h : s.Acts '\x7b') : Entered s (s.step '\x7b') := by
  have hentered : Entered s ({ s with mode := .plain }.boundary .opening) :=
    entered_boundary (sameStructure_mode s .plain).sameDepth h.2.2
  have hstep : s.step '\x7b' = _ := step_of_readsPlain (b := .opening) h.2.1
  rw [hstep]
  exact hentered.congr (sameStructure_keep _ _).sameDepth

/-- A closing brace that counts closes the brace that was opened last. -/
theorem Entered.step {s t : Scanner} (h : Entered s t) (hs : s.Tracked) (hacts : t.Acts '\x7d') :
    SameDepth s (t.step '\x7d') := by
  have hleft : SameDepth s ({ t with mode := .plain }.boundary .closing) :=
    (h.congr (sameStructure_mode t .plain).sameDepth).boundary hs hacts.2.2
  have hstep : t.step '\x7d' = _ := step_of_readsPlain (b := .closing) hacts.2.1
  rw [hstep]
  exact hleft.trans (sameStructure_keep _ _).sameDepth

/-- **A text in which braces match leads back to the depth from which it started.** -/
theorem Balanced.sameDepth {s : Scanner} {t : Text} (h : Balanced s t) (hs : s.Tracked) :
    SameDepth s (s.scan t) := by
  induction h with
  | nil s => exact ⟨rfl, rfl, rfl⟩
  | @cons s c t hc ht ih => exact (sameDepth_step hc).trans (ih (hs.scan [c]))
  | @block s t u hopens ht hcloses hu iht ihu =>
      have hinner := iht (hs.scan ['\x7b'])
      have hleft := ((entered_step hopens).congr hinner).step hs hcloses
      have htracked := ((hs.scan ['\x7b']).scan t).scan ['\x7d']
      change SameDepth s ((s.step '\x7b').scan (t ++ '\x7d' :: u))
      rw [scan_append]
      exact hleft.trans (ihu htracked)

/-- The closing brace behind the text closes the opening brace in front of it. -/
structure Encloses (s : Scanner) (t : Text) : Prop where
  /-- The opening brace counts. -/
  opens : s.Acts '\x7b'
  /-- The braces between the two match. -/
  balanced : Balanced (s.step '\x7b') t
  /-- The closing brace counts. -/
  closes : ((s.step '\x7b').scan t).Acts '\x7d'

/-- A pair of braces leads back to the node that received declarations in front of it. -/
theorem Encloses.current_eq {s : Scanner} {t : Text} (h : s.Encloses t) (hs : s.Tracked) :
    (s.scan ('\x7b' :: (t ++ ['\x7d']))).current = s.current := by
  have hsame := (Balanced.block h.opens h.balanced h.closes (.nil _)).sameDepth hs
  rw [current, current, hsame.scopes, base_scan]

/-! ## Behind every text -/

/-- Braces, blocks and bodies in step behind a text. -/
structure InStep (s : Scanner) (t : Text) : Prop extends Linked s where
  /-- Outside bodies there is one open block for each open brace. -/
  outside : s.body = none → s.nesting = s.scopes.length
  /-- Inside a body no bracket is open, the open blocks reach to the body, and at least as many
  braces are open. -/
  inside : ∀ body, s.body = some body →
    s.brackets = 0 ∧ s.scopes.length = body.depth ∧ 1 ≤ body.depth ∧ body.depth ≤ s.nesting
  /-- A block remembers the place of its opening brace. -/
  braces : ∀ scope ∈ s.scopes, t[scope.openedAt]? = some '\x7b'
  /-- The further in a block is, the further behind is its brace. -/
  rising : s.scopes.Pairwise fun inner outer => outer.openedAt < inner.openedAt

section start

variable (tree : Tree) (base : NodeId) (symbols : Symbols)

/-- Every open block remembers where its opening brace stands. -/
theorem getElem?_openedAt {t : Text} {scope : Scope}
    (h : scope ∈ ((start tree base symbols).scan t).scopes) :
    t[scope.openedAt]? = some '\x7b' := by
  obtain ⟨inner, outer, heq⟩ := List.append_of_mem h
  obtain ⟨before, behind, rfl, hat, -⟩ :=
    exists_opening (s := start tree base symbols) rfl (heq ▸ List.suffix_append inner _)
  rw [hat, show (start tree base symbols).offset = 0 from rfl, Nat.zero_add]
  simp

/-- Blocks are opened one after the other, from the outermost to the innermost. -/
theorem pairwise_openedAt (t : Text) :
    ((start tree base symbols).scan t).scopes.Pairwise fun inner outer =>
      outer.openedAt < inner.openedAt := by
  have hall : ∀ scopes, scopes <:+ ((start tree base symbols).scan t).scopes →
      scopes.Pairwise fun inner outer => outer.openedAt < inner.openedAt := by
    intro scopes
    induction scopes with
    | nil => exact fun _ => List.Pairwise.nil
    | cons scope outer ih =>
        intro hsuffix
        refine List.pairwise_cons.2 ⟨?_, ih ((List.suffix_cons scope outer).trans hsuffix)⟩
        intro other hother
        obtain ⟨before, behind, -, hat, -, -, -, houter, -⟩ :=
          exists_opening (s := start tree base symbols) rfl hsuffix
        -- The blocks around this one were open in front of its brace.
        have hbrace := getElem?_openedAt tree base symbols (houter ▸ hother)
        rw [hat, show (start tree base symbols).offset = 0 from rfl, Nat.zero_add]
        exact (List.getElem?_eq_some_iff.1 hbrace).1
  exact hall _ List.suffix_rfl

/-- **Braces, blocks and bodies stay in step** over every source, whatever it holds.  In particular
a closing brace that closes an opening one restores the node that received declarations in front of
the two, also behind closing braces that close nothing. -/
theorem inStep_scan {tree : Tree} {base : NodeId} (hbase : base < tree.size) (symbols : Symbols)
    (t : Text) :
    InStep ((start tree base symbols).scan t) t ∧
      ∀ u, ((start tree base symbols).scan t).Encloses u →
        ((start tree base symbols).scan (t ++ '\x7b' :: (u ++ ['\x7d']))).current =
          ((start tree base symbols).scan t).current := by
  have htracked := (tracked_start tree base symbols).scan t
  constructor
  · exact
      { linked_scan hbase symbols t with
        outside := htracked.outside
        inside := fun _ hbody => htracked.inside hbody
        braces := fun _ hscope => getElem?_openedAt tree base symbols hscope
        rising := pairwise_openedAt tree base symbols t }
  · intro u hencloses
    rw [scan_append]
    exact hencloses.current_eq htracked

/-- Text without braces in front of a balanced one. -/
theorem balanced_append {s : Scanner} {front t : Text} (hopening : '\x7b' ∉ front)
    (hclosing : '\x7d' ∉ front) (ht : Balanced (s.scan front) t) : Balanced s (front ++ t) := by
  induction front generalizing s with
  | nil => exact ht
  | cons c front ih =>
      rw [List.mem_cons, not_or] at hopening hclosing
      refine .cons ?_ (ih hopening.2 hclosing.2 ht)
      intro hacts
      exact hacts.1.elim (fun hc => hopening.1 hc.symm) (fun hc => hclosing.1 hc.symm)

/-- A source that stops in front of the brace of a class, behind braces that close nothing. -/
def unmatchedFront : Text :=
  "\x7d namespace N \x7b \x7d \x7d namespace M \x7b class A "

/-- The members of a class, a function with a body among them. -/
def classBody : Text :=
  " int M() ".toList ++ '\x7b' :: (" f(); ".toList ++ '\x7d' :: " int b; ".toList)

/-- Behind braces that close nothing the counts are in step, and the class is entered and left
again. -/
theorem inStep_scan_unmatchedFront :
    InStep ((start (.ofLabel "Test") Tree.root {}).scan unmatchedFront) unmatchedFront ∧
      ((start (.ofLabel "Test") Tree.root {}).scan unmatchedFront).Encloses classBody ∧
        ((start (.ofLabel "Test") Tree.root {}).scan
          (unmatchedFront ++ '\x7b' :: (classBody ++ ['\x7d']))).current =
          ((start (.ofLabel "Test") Tree.root {}).scan unmatchedFront).current := by
  have hplain : ∀ {s : Scanner} {t : Text}, '\x7b' ∉ t → '\x7d' ∉ t → Balanced s t := by
    intro s t hopening hclosing
    exact List.append_nil t ▸ balanced_append hopening hclosing (.nil _)
  have hencloses :
      ((start (.ofLabel "Test") Tree.root {}).scan unmatchedFront).Encloses classBody := by
    refine ⟨by decide +kernel, ?_, by decide +kernel⟩
    refine balanced_append (by decide +kernel) (by decide +kernel) (.block (by decide +kernel) ?_
      (by decide +kernel) ?_)
    · exact hplain (by decide +kernel) (by decide +kernel)
    · exact hplain (by decide +kernel) (by decide +kernel)
  obtain ⟨hinStep, hrestored⟩ :=
    inStep_scan (show Tree.root < (Tree.ofLabel "Test").size by decide) {} unmatchedFront
  exact ⟨hinStep, hencloses, hrestored classBody hencloses⟩

end start

end Scanner

end DeclAtlas
