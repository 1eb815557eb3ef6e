import Mathlib
import DeclAtlas.Proofs.Header.Comment
import DeclAtlas.Proofs.Reader.Counting

/-!
# Sources one behind the other

* **Theorem** (`Tree.read_append`): a source that ends cleanly can be followed by another one in the
  same text, or be read first and the other one after it.

At a clean end the scanner is back where it started, except that blanks may wait in front of the
next header and that the symbols may stand in another order (`Scanner.AtRest.related`).  Neither
matters to what is read (`Header.read_blanks_append`, `Conditions.SameMembers.apply`), so two
readers that differ in just this stay so to the end.
-/

namespace DeclAtlas

/-! ## Blanks in front of a header -/

/-- The first text is the second one with blanks in front of it. -/
def Text.Indented (t t' : Text) : Prop :=
  ∃ blanks : Text, (∀ c ∈ blanks, isBlank c = true) ∧ t = blanks ++ t'

/-- Blanks in front stay in front. -/
theorem Text.Indented.append {t t' : Text} (h : t.Indented t') (u : Text) :
    Text.Indented (t ++ u) (t' ++ u) := by
  obtain ⟨blanks, hblanks, rfl⟩ := h
  exact ⟨blanks, hblanks, List.append_assoc blanks t' u⟩

theorem Text.indented_refl (t : Text) : t.Indented t :=
  ⟨[], fun _ hc => absurd hc List.not_mem_nil, rfl⟩

namespace Builder

/-- A header is read the same with blanks in front of it. -/
theorem Alike.readHeader_eq {b b' : Builder} (h : Alike (· = ·) Text.Indented b b')
    (boundary : Boundary) : b.readHeader boundary = b'.readHeader boundary := by
  obtain ⟨blanks, hblanks, hpending⟩ := h.pending
  have hcontext : b.context boundary = b'.context boundary := by
    rw [context, context, h.current_eq, h.tree]
  have hemptied : { b with pending := [] } = { b' with pending := [] } := by
    rw [h.tree, h.base, h.summary, h.brackets, h.maybeGeneric, h.nesting, h.body, h.scopes]
  unfold readHeader
  rw [hpending, hcontext, Header.read_blanks_append _ hblanks, hemptied]

theorem alike_refl (b : Builder) : Alike (· = ·) Text.Indented b b :=
  ⟨rfl, Text.indented_refl _, rfl, rfl, rfl, rfl, rfl, rfl, rfl⟩

/-- Blanks in front of the header change nothing that a builder does. -/
theorem carries_indented :
    Carries (Alike (· = ·) Text.Indented) (Alike (· = ·) Text.Indented) := by
  apply carries_alike
  · intro t t' c h
    exact h.append [c]
  · exact Text.indented_refl []
  · intro b b' boundary h
    rw [h.readHeader_eq]
    exact alike_refl _

/-! ## The node that receives declarations -/

/-- Reading a header keeps the node below which declarations go. -/
theorem base_readHeader (b : Builder) (boundary : Boundary) :
    (b.readHeader boundary).base = b.base := by
  have hmove : ∀ (taken : Builder) (node : NodeId),
      (taken.moveScope boundary node).base = taken.base := by
    intro taken node
    cases boundary <;> rfl
  have htake : ∀ header : Header,
      ({ b with pending := [] }.take boundary header).1.base = b.base := by
    intro header
    cases header <;> rfl
  exact (hmove _ _).trans (htake _)

/-- A boundary keeps the node below which declarations go. -/
theorem base_boundary (b : Builder) (boundary : Boundary) (c : Char) :
    (b.boundary boundary c).base = b.base := by
  unfold Builder.boundary
  split_ifs
  · rfl
  · extract_lets counted
    split
    · exact base_readHeader counted boundary
    · split_ifs <;> rfl

/-- An opening bracket keeps the node below which declarations go. -/
theorem base_openBracket (b : Builder) : b.openBracket.base = b.base := by
  unfold openBracket
  split_ifs <;> rfl

/-- No operation changes the node that receives declarations outside all blocks. -/
theorem carries_base (base : NodeId) :
    Carries (fun b _ => b.base = base) fun b _ => b.base = base where
  stay h := h
  slash h := h
  collect _ h := h
  boundary boundary c h := (base_boundary _ boundary c).trans h
  openBracket _ h := (base_openBracket _).trans h
  closeBracket _ _ h := h
  startGeneric h := h
  endGeneric _ h := h
  document _ h := h

end Builder

/-! ## Behind a line break -/

namespace Reader

/-- Reading keeps the node below which declarations go. -/
theorem base_scan (r : Reader) (t : Text) : (r.scan t).base = r.base :=
  scan_invariant (Builder.carries_base r.base) rfl t

/-- The modes that a reader can be in at the start of a line. -/
def Mode.startsLine : Mode → Bool
  | .slash | .verbatimQuote | .directive _ => false
  | _ => true

/-- At the start of a line structural text is plain. -/
theorem Mode.eq_plain_of_startsLine {mode : Mode} (hline : mode.startsLine = true)
    (h : mode.isStructural = true) : mode = .plain := by
  cases mode
  case plain => rfl
  case slash | verbatimQuote | directive => cases hline
  all_goals cases h

/-- Behind the end of a line, unless a directive ends there, a line starts. -/
theorem Mode.startsLine_next {mode : Mode} (h : ∀ line, mode ≠ .directive line) (trail : Trail)
    (lineBlank : Bool) : (mode.next trail lineBlank '\n').startsLine = true := by
  cases mode
  case directive line => exact absurd rfl (h line)
  case string verbatim => cases verbatim <;> rfl
  case skipped => simp [next, startsLine]
  case blockComment starred => simp [next, startsLine]
  all_goals rfl

/-- Behind every end of a line a line starts. -/
theorem startsLine_step (r : Reader) : (r.step '\n').mode.startsLine = true := by
  by_cases hdirective : ∃ line, r.mode = .directive line
  · obtain ⟨line, hmode⟩ := hdirective
    have hstep : r.step '\n' = (r.endDirective line).keep '\n' := by
      simp only [step, dispatch, hmode]
    rw [hstep]
    change (if _ then Mode.skipped else Mode.plain).startsLine = true
    split_ifs <;> rfl
  · have hmode : ∀ line, r.mode ≠ .directive line := fun line h => hdirective ⟨line, h⟩
    rw [step_of_mode fun line h => absurd h (hmode line)]
    exact Mode.startsLine_next hmode r.trail r.lineBlank

/-- A text that is empty or ends with a line break leads to the start of a line. -/
theorem scan_lines {r : Reader} (h : r.AtLine) {t : Text}
    (ht : t = [] ∨ t.getLast? = some '\n') :
    (r.scan t).mode.startsLine = true ∧
      ((r.scan t).mode.isStructural = true → (r.scan t).AtLine) := by
  rcases ht with rfl | hlast
  · refine ⟨?_, fun _ => h⟩
    rw [scan_nil, h.mode]
    rfl
  · obtain ⟨lines, rfl⟩ := List.getLast?_eq_some_iff.1 hlast
    rw [scan_append, scan_cons, scan_nil]
    have hline := startsLine_step (r.scan lines)
    refine ⟨hline, fun hmode => ⟨Mode.eq_plain_of_startsLine hline hmode, ?_, ?_⟩⟩
    · rw [step_trail]
      rfl
    · rw [step_lineBlank]
      rfl

/-- At the start of a line the end of the source ends nothing. -/
theorem endOfSource_of_startsLine {r : Reader} (h : r.mode.startsLine = true) :
    r.endOfSource = r := by
  unfold endOfSource
  split
  · rename_i line hmode
    rw [hmode] at h
    cases h
  · rfl

/-- Where no literal, comment, bracket or block is open, all counts are back at zero. -/
theorem counts_of_faultKind? {r : Reader} (h : r.Counted) (hmode : r.mode = .plain)
    (hfault : r.faultKind? = none) :
    r.brackets = 0 ∧ r.scopes = [] ∧ r.body = none ∧ r.nesting = 0 := by
  unfold faultKind? at hfault
  simp only [hmode] at hfault
  split_ifs at hfault with hbrackets hscopes
  have hscopes : r.scopes = [] := List.isEmpty_iff.1 hscopes
  have hbody : r.body = none := by
    rw [Option.eq_none_iff_forall_not_mem]
    intro body hsome
    obtain ⟨-, hlength, hpos, -⟩ := h.inside body hsome
    rw [hscopes, List.length_nil] at hlength
    omega
  refine ⟨Nat.eq_zero_of_not_pos hbrackets, hscopes, hbody, ?_⟩
  rw [h.outside hbody, hscopes, List.length_nil]

end Reader

/-! ## Sources -/

namespace Scanner

/-- The scanner has ended a source cleanly, and the given symbols are defined. -/
structure AtRest (s : Scanner) (symbols : Symbols) : Prop where
  /-- The next character would be structural. -/
  mode : s.mode.isStructural = true
  /-- No conditional group is open. -/
  groups : s.conditions.groups.stack = []
  /-- The symbols are defined, in whatever order. -/
  symbols : s.conditions.symbols.sameMembers symbols = true
  /-- No documentation waits for a declaration. -/
  summary : s.summary = []
  /-- Behind the last boundary stand only blanks and what is left out of headers. -/
  header : Text.isAllBlank s.header = true

instance (s : Scanner) (symbols : Symbols) : Decidable (s.AtRest symbols) :=
  decidable_of_iff (s.mode.isStructural = true ∧ s.conditions.groups.stack = [] ∧
      s.conditions.symbols.sameMembers symbols = true ∧ s.summary = [] ∧
      Text.isAllBlank s.header = true)
    ⟨fun ⟨hmode, hgroups, hsymbols, hsummary, hheader⟩ =>
      ⟨hmode, hgroups, hsymbols, hsummary, hheader⟩,
    fun h => ⟨h.mode, h.groups, h.symbols, h.summary, h.header⟩⟩

/-- At the start of a line the end of the source leaves the scanner as it is. -/
theorem ReadsAs.endOfSource_eq {s : Scanner} {r : Reader} (h : s.ReadsAs r)
    (hline : r.mode.startsLine = true) : s.endOfSource = s := by
  rw [← h.view_eq] at hline
  unfold endOfSource
  split
  · rename_i lineStart regionStart hmode
    have hview : s.view.mode = .directive (s.source.slice lineStart s.source.size) := by
      change s.mode.view s.source = _
      rw [hmode]
      rfl
    rw [hview] at hline
    cases hline
  · rfl

/-- At a clean end the reader is as good as a fresh one. -/
theorem AtRest.related {s : Scanner} {r : Reader} {symbols : Symbols} (h : s.AtRest symbols)
    (hreads : s.ReadsAs r) (hline : r.AtLine) (hcounted : r.Counted)
    (hfault : r.faultKind? = none) :
    Reader.Related Conditions.SameMembers (Builder.Alike (· = ·) Text.Indented) r
      (.start r.tree r.base symbols) := by
  obtain ⟨hbrackets, hscopes, hbody, hnesting⟩ :=
    Reader.counts_of_faultKind? hcounted hline.mode hfault
  have hpending : r.pending = s.header := by
    rw [← hreads.header_eq h.mode, Reader.header, hline.mode, if_neg (by decide)]
  have hblank : ∀ c ∈ r.pending, Text.isBlank c = true := by
    rw [hpending]
    exact List.all_eq_true.1 h.header
  have hgeneric : r.maybeGeneric = false := by
    rw [← Bool.not_eq_true]
    intro hflagged
    exact absurd (hblank _ (hcounted.generic hflagged)) (by decide)
  have hsummary : r.summary = [] := by
    rw [← hreads.view_eq]
    exact h.summary
  have hconditions : r.conditions.SameMembers { symbols } := by
    rw [← hreads.view_eq]
    refine ⟨?_, Symbols.sameMembers_iff.1 h.symbols⟩
    change s.conditions.groups = { stack := [] }
    rw [← h.groups]
  refine ⟨⟨hline.mode, hline.trail, hline.lineBlank⟩, ?_, hconditions⟩
  exact ⟨rfl, ⟨r.pending, hblank, (List.append_nil _).symm⟩, rfl, hsummary, hbrackets, hgeneric,
    hnesting, hbody, hscopes⟩

end Scanner

namespace Tree

variable (tree : Tree) (base : NodeId) (symbols : Symbols)

/-- **Sources concatenate.**  Behind a source that ends cleanly, at the start of a line and with the
symbols it began with, another one is read as it is read on its own. -/
theorem read_append {t : Text} (hfault : (tree.read base symbols t).fault = none)
    (hrest : ((Scanner.start tree base symbols).scan t).endOfSource.AtRest symbols)
    (hbreak : t = [] ∨ t.getLast? = some '\n') (u : Text) :
    (tree.read base symbols (t ++ u)).Agrees
      ((tree.read base symbols t).tree.read base symbols u) := by
  have hreads := (Scanner.readsAs_start tree base symbols).scan t
  have hcounted := Reader.counted_scan (Reader.counted_start tree base symbols) t
  obtain ⟨hstarts, hline⟩ := Reader.scan_lines (Reader.atLine_start tree base symbols) hbreak
  have hend := Reader.endOfSource_of_startsLine hstarts
  rw [hreads.endOfSource_eq hstarts] at hrest
  have hkind := tree.faultKind_read base symbols t
  rw [hfault, hend] at hkind
  have hrelated := hrest.related hreads (hline (hreads.isStructural.trans hrest.mode)) hcounted
    hkind.symm
  rw [Reader.base_scan] at hrelated
  have hscanned := hrelated.scan Reader.compatible_sameMembers Builder.carries_indented u
  have hafter := hscanned.endOfSource Reader.compatible_sameMembers
  rw [tree.tree_read base symbols t, hend]
  apply agrees_read
  · rw [Reader.scan_append]
    exact hafter.builder.tree
  · rw [Reader.scan_append]
    exact Symbols.sameMembers_iff.2 hafter.conditions.symbols
  · rw [Reader.scan_append]
    exact hafter.faultKind? hafter.builder.brackets hafter.builder.scopes

/-- A source that ends cleanly, with its symbols in another order than at its start. -/
def tidySource : Text :=
  "class A \x7b int M(int x) \x7b return x < 1; \x7d \x7d\n#undef X\n#define X\n// end\n"

/-- The tidy source and what follows it are read as one source or as two. -/
theorem read_append_tidySource :
    ((ofLabel "Test").read root { names := ["X", "Y"] } tidySource).fault = none ∧
      ((Scanner.start (.ofLabel "Test") root { names := ["X", "Y"] }).scan
        tidySource).endOfSource.AtRest { names := ["X", "Y"] } ∧
      ((ofLabel "Test").read root { names := ["X", "Y"] }
          (tidySource ++ "#if X\nint b;\n#endif")).Agrees
        (((ofLabel "Test").read root { names := ["X", "Y"] } tidySource).tree.read root
          { names := ["X", "Y"] } "#if X\nint b;\n#endif") := by
  have hfault : ((ofLabel "Test").read root { names := ["X", "Y"] } tidySource).fault = none := by
    decide +kernel
  have hrest : ((Scanner.start (.ofLabel "Test") root { names := ["X", "Y"] }).scan
      tidySource).endOfSource.AtRest { names := ["X", "Y"] } := by
    decide +kernel
  exact ⟨hfault, hrest, read_append _ root _ hfault hrest (Or.inr (by decide)) _⟩

end Tree

end DeclAtlas
