import Mathlib
import DeclAtlas.Proofs.Reader.Refinement
import DeclAtlas.Proofs.Scanner.Opening

/-!
# What a fault points at

Reading fails only at the end of a source, and the state there holds no more than an offset for
whatever is still open.  Along a run these offsets stay with what they were taken for:

* an offset held by the mode is that of the quote, or of the slash in front of an asterisk, in which
  the literal or comment began (`Scanner.lexeme?_dispatch`),
* the offset kept for brackets is that of the bracket that last raised their number from zero
  (`Scanner.brackets_dispatch`),
* the offset of an open block is that of its brace (`Scanner.exists_opening`).

`Tree.read_fault` puts the three together: a source is at fault exactly if one of its characters
opens something that stays open, and the fault names such a character, its line and its column.
-/

namespace DeclAtlas

/-! ## Lines and columns -/

/-- Lines are counted by their ends, columns from the last end of a line. -/
theorem Location.foldl_next (t : Text) :
    t.foldl Location.next Location.first =
      { line := t.count '\n' + 1, column := (t.reverse.takeWhile (· != '\n')).length + 1 } := by
  induction t using List.reverseRecOn with
  | nil => rfl
  | append_singleton t c ih =>
      rw [List.foldl_append, ih, List.foldl_cons, List.foldl_nil, Location.next]
      by_cases hc : c = '\n'
      · simp [hc]
      · simp [hc]

/-- The location of an offset depends on the text in front of it alone. -/
theorem Source.location_append (before behind : Text) :
    Source.location { chars := (before ++ behind).toArray } before.length =
      { line := before.count '\n' + 1,
        column := (before.reverse.takeWhile (· != '\n')).length + 1 } := by
  rw [Source.location, ← Location.foldl_next]
  simp [Source.slice]

/-- The literal or block comment in which a character is read.  Behind a quote of a verbatim string
that is still the string, since a second quote goes on with it. -/
def Mode.lexeme? : Mode → Option (FaultKind × Nat)
  | .string openedAt _ | .stringEscape openedAt | .verbatimQuote openedAt =>
    some (.unterminatedString, openedAt)
  | .char openedAt | .charEscape openedAt | .brokenChar openedAt =>
    some (.unterminatedChar, openedAt)
  | .blockComment openedAt => some (.unterminatedComment, openedAt)
  | _ => none

namespace Scanner

/-! ## Literals and comments -/

/-- A boundary does not change the mode. -/
theorem mode_boundary (s : Scanner) (b : Boundary) : (s.boundary b).mode = s.mode := by
  unfold Scanner.boundary
  split_ifs
  · rfl
  · extract_lets counted
    split
    · exact (counted.samePlace_readHeader b).mode
    · split_ifs <;> rfl

/-- The modes to which a character can lead. -/
inductive Turn (s : Scanner) (c : Char) : Mode → Prop
  /-- A slash in structural text. -/
  | slash (hplain : s.readsPlain c = true) (hc : c = '/') : Turn s c .slash
  /-- A string begins. -/
  | string (hplain : s.readsPlain c = true) (hc : c = '"') (verbatim : Bool) :
      Turn s c (.string s.offset verbatim)
  /-- A character literal begins. -/
  | char (hplain : s.readsPlain c = true) (hc : c = '\'') : Turn s c (.char s.offset)
  /-- A comment has begun with the slash in front. -/
  | comment (hslash : s.mode = .slash) (hc : c = '*') : Turn s c (.blockComment (s.offset - 1))
  /-- A literal or comment goes on. -/
  | inside {mode : Mode} (hmode : mode ≠ .slash) (hsame : mode.lexeme? = s.mode.lexeme?) :
      Turn s c mode
  /-- Outside literals and comments. -/
  | outside {mode : Mode} (hmode : mode ≠ .slash) (hnone : mode.lexeme? = none) : Turn s c mode

/-- The modes to which a character of plain text leads. -/
theorem turn_stepPlain {s : Scanner} {c : Char} (h : s.readsPlain c = true) :
    Turn s c (s.stepPlain c).mode := by
  have hplain : ∀ {mode : Mode}, mode = .plain → Turn s c mode := by
    rintro mode rfl
    exact .outside (by simp) rfl
  unfold stepPlain
  extract_lets s'
  split
  · exact .string h rfl s'.opensVerbatim
  · exact .char h rfl
  · exact .slash h rfl
  · split_ifs
    · exact .outside (by simp) rfl
    · exact hplain rfl
  · exact hplain (s'.mode_boundary .comma)
  · exact hplain (s'.mode_boundary .semicolon)
  · exact hplain (s'.mode_boundary .opening)
  · exact hplain (s'.mode_boundary .closing)
  · unfold Scanner.openBracket
    split_ifs <;> exact hplain rfl
  · unfold Scanner.openBracket
    split_ifs <;> exact hplain rfl
  all_goals exact hplain rfl

/-- **Where literals and comments begin**: at a quote in structural text, or at a slash in front of
an asterisk. -/
theorem turn_dispatch (s : Scanner) (c : Char) : Turn s c (s.dispatch c).mode := by
  have hstays : s.mode ≠ .slash → Turn s c s.mode := fun hmode => .inside hmode rfl
  unfold dispatch
  cases hmode : s.mode
  case plain => exact turn_stepPlain (by rw [readsPlain, hmode])
  case slash =>
    change Turn s c (s.stepSlash c).mode
    unfold stepSlash
    split
    · exact .outside (by simp) rfl
    · exact .comment hmode rfl
    · exact turn_stepPlain (by rw [readsPlain, hmode])
  case verbatimQuote openedAt =>
    change Turn s c (s.stepVerbatimQuote openedAt c).mode
    unfold stepVerbatimQuote
    split
    · exact .inside (by simp) (by rw [hmode]; rfl)
    · rename_i hquote
      exact turn_stepPlain (by simpa [readsPlain, hmode] using hquote)
  case string openedAt verbatim =>
    change Turn s c (s.stepString openedAt verbatim c).mode
    unfold stepString
    split
    · exact .inside (by simp) (by rw [hmode]; rfl)
    · exact .outside (by simp) rfl
    · exact .inside (by simp) (by rw [hmode]; rfl)
    · exact hstays (by simp [hmode])
  case char openedAt =>
    change Turn s c (s.stepChar openedAt c).mode
    unfold stepChar
    split
    · exact .inside (by simp) (by rw [hmode]; rfl)
    · exact .outside (by simp) rfl
    · exact .inside (by simp) (by rw [hmode]; rfl)
    · exact hstays (by simp [hmode])
  case stringEscape openedAt | charEscape openedAt =>
    exact .inside (by simp) (by rw [hmode]; rfl)
  case brokenChar openedAt => exact hstays (by simp [hmode])
  case lineComment openedAt =>
    change Turn s c (s.stepLineComment openedAt c).mode
    unfold stepLineComment
    split
    · split_ifs
      · exact .outside (by simp) rfl
      · exact hstays (by simp [hmode])
    · exact .outside (by simp [exclude]) rfl
    · exact hstays (by simp [hmode])
  case docComment openedAt =>
    change Turn s c (s.stepDocComment openedAt c).mode
    unfold stepDocComment
    split
    · exact .outside (by simp [exclude]) rfl
    · exact hstays (by simp [hmode])
  case blockComment openedAt =>
    change Turn s c (s.stepBlockComment openedAt c).mode
    unfold stepBlockComment
    split_ifs
    · exact .outside (by simp [exclude]) rfl
    · exact hstays (by simp [hmode])
  case directive lineStart regionStart =>
    change Turn s c (s.stepDirective lineStart regionStart c).mode
    unfold stepDirective
    split
    · unfold endDirective
      extract_lets line s'
      split_ifs
      · exact .outside (by simp) rfl
      · exact .outside (by simp [exclude]) rfl
    · exact hstays (by simp [hmode])
  case skipped regionStart =>
    change Turn s c (s.stepSkipped regionStart c).mode
    unfold stepSkipped
    split
    · split_ifs
      · exact .outside (by simp) rfl
      · exact hstays (by simp [hmode])
    · exact hstays (by simp [hmode])

/-- A quote and the kind of literal that it opens. -/
def Quotes (c : Char) (kind : FaultKind) : Prop :=
  c = '"' ∧ kind = .unterminatedString ∨ c = '\'' ∧ kind = .unterminatedChar

/-- A literal or comment that is open behind a character was open before or is opened by it. -/
theorem lexeme?_dispatch {s : Scanner} {c : Char} {kind : FaultKind} {openedAt : Nat}
    (h : (s.dispatch c).mode.lexeme? = some (kind, openedAt)) :
    s.mode.lexeme? = some (kind, openedAt) ∨
      s.readsPlain c = true ∧ Quotes c kind ∧ openedAt = s.offset ∨
      s.mode = .slash ∧ c = '*' ∧ kind = .unterminatedComment ∧ openedAt = s.offset - 1 := by
  have hturn := turn_dispatch s c
  generalize (s.dispatch c).mode = mode at hturn h
  cases hturn with
  | slash => cases h
  | string hplain hc =>
      cases h
      exact Or.inr (Or.inl ⟨hplain, Or.inl ⟨hc, rfl⟩, rfl⟩)
  | char hplain hc =>
      cases h
      exact Or.inr (Or.inl ⟨hplain, Or.inr ⟨hc, rfl⟩, rfl⟩)
  | comment hslash hc =>
      cases h
      exact Or.inr (Or.inr ⟨hslash, hc, rfl, rfl⟩)
  | inside _ hsame => exact Or.inl (hsame ▸ h)
  | outside _ hnone =>
      rw [hnone] at h
      cases h

/-- Only a slash in structural text may open a comment. -/
theorem slash_dispatch {s : Scanner} {c : Char} (h : (s.dispatch c).mode = .slash) :
    s.readsPlain c = true ∧ c = '/' := by
  have hturn := turn_dispatch s c
  generalize (s.dispatch c).mode = mode at hturn h
  cases hturn with
  | slash hplain hc => exact ⟨hplain, hc⟩
  | string | char | comment => cases h
  | inside hmode | outside hmode => exact absurd h hmode

/-! ## Brackets -/

/-- **Where brackets are first open**: at an opening bracket in structural text, outside bodies,
while none is open. -/
theorem brackets_dispatch {s : Scanner} {c : Char} (h : 0 < (s.dispatch c).brackets) :
    0 < s.brackets ∧ (s.dispatch c).bracketOpenedAt = s.bracketOpenedAt ∨
      (c = '(' ∨ c = '[') ∧ s.readsPlain c = true ∧ s.brackets = 0 ∧
        (s.dispatch c).brackets = 1 ∧ (s.dispatch c).bracketOpenedAt = s.offset := by
  have heffect := effect_dispatch s c
  generalize s.dispatch c = t at heffect h ⊢
  cases heffect with
  | @boundary b =>
      have hsame := sameBrackets_boundary { s with mode := .plain } b
      exact Or.inl ⟨hsame.brackets ▸ h, hsame.bracketOpenedAt⟩
  | openBracket hc hplain =>
      unfold Scanner.openBracket at h ⊢
      split_ifs at h ⊢ with hbody hnone
      · exact Or.inl ⟨h, rfl⟩
      · exact Or.inr ⟨hc, hplain, hnone, congrArg (· + 1) hnone, rfl⟩
      · exact Or.inl ⟨Nat.pos_of_ne_zero hnone, rfl⟩
  | closeBracket =>
      unfold Scanner.closeBracket at h ⊢
      extract_lets at h ⊢
      refine Or.inl ⟨?_, rfl⟩
      dsimp only at h
      split_ifs at h
      · exact h.trans_le (Nat.sub_le _ 1)
      · exact h
  | none _ hsame => exact Or.inl ⟨hsame.brackets ▸ h, hsame.bracketOpenedAt⟩

/-! ## What stays open -/

/-- A character opens something that the rest of the source leaves open. -/
inductive LeavesOpen (s : Scanner) (c : Char) (behind : Text) : FaultKind → Prop
  /-- A quote opens a literal, and all that comes behind is read inside it. -/
  | literal {kind : FaultKind} (hplain : s.readsPlain c = true) (hquote : Quotes c kind)
      (hinside : ∀ p, p <+: behind → (s.scan (c :: p)).mode.lexeme? = some (kind, s.offset))
      (hend : (s.scan (c :: behind)).openLexeme? = some (kind, s.offset)) :
      LeavesOpen s c behind kind
  /-- A slash in front of an asterisk opens a comment, and all that comes behind is read inside
  it. -/
  | comment {rest : Text} (hplain : s.readsPlain c = true) (hc : c = '/')
      (hbehind : behind = '*' :: rest)
      (hinside : ∀ p, p <+: rest →
        (s.scan (c :: '*' :: p)).mode.lexeme? = some (.unterminatedComment, s.offset)) :
      LeavesOpen s c behind .unterminatedComment
  /-- A bracket raises the number of open brackets from zero to one, and some are open ever
  since. -/
  | bracket (hplain : s.readsPlain c = true) (hc : c = '(' ∨ c = '[') (hbefore : s.brackets = 0)
      (hafter : (s.step c).brackets = 1)
      (hopen : ∀ p, p <+: behind → 0 < (s.scan (c :: p)).brackets) :
      LeavesOpen s c behind .unclosedBracket
  /-- A brace outside brackets and bodies opens a block that is never left, and every block that is
  opened inside it is left. -/
  | block {scope : Scope} (hplain : s.readsPlain c = true) (hc : c = '\x7b')
      (hbrackets : s.brackets = 0) (hbody : s.body = none) (hplace : scope.openedAt = s.offset)
      (hopen : ∀ p, p <+: behind → scope :: s.scopes <:+ (s.scan (c :: p)).scopes)
      (hinnermost : (s.scan (c :: behind)).scopes = scope :: s.scopes) :
      LeavesOpen s c behind .unclosedBlock

/-- A string is closed by its last quote, also where another quote would go on with it. -/
theorem openLexeme?_eq_or (s : Scanner) :
    s.openLexeme? = s.mode.lexeme? ∨ s.openLexeme? = none := by
  unfold openLexeme?
  cases s.mode
  case verbatimQuote => exact Or.inr rfl
  all_goals exact Or.inl rfl

/-- What is reported as open at the end is open. -/
theorem lexeme?_of_openLexeme? {s : Scanner} {found : FaultKind × Nat}
    (h : s.openLexeme? = some found) : s.mode.lexeme? = some found := by
  rcases s.openLexeme?_eq_or with heq | hnone
  · exact heq ▸ h
  · rw [hnone] at h
    cases h

/-- A block comment that is open at the end is reported. -/
theorem openLexeme?_of_comment {s : Scanner} {openedAt : Nat}
    (h : s.mode.lexeme? = some (.unterminatedComment, openedAt)) :
    s.openLexeme? = some (.unterminatedComment, openedAt) := by
  unfold openLexeme?
  cases hmode : s.mode
  all_goals rw [hmode] at h
  case blockComment => exact h
  all_goals cases h

/-- What stays open makes a fault. -/
theorem LeavesOpen.fault?_ne_none {s : Scanner} {c : Char} {behind : Text} {kind : FaultKind}
    (h : s.LeavesOpen c behind kind) : (s.scan (c :: behind)).fault? ≠ none := by
  rw [fault?, ne_eq, Option.map_eq_none_iff, Option.or_eq_none_iff, Option.or_eq_none_iff]
  rintro ⟨hlexeme, hbracket, hblock⟩
  cases h with
  | literal _ _ _ hend => simp [hend] at hlexeme
  | comment _ _ hbehind hinside =>
      subst hbehind
      simp [openLexeme?_of_comment (hinside _ List.prefix_rfl)] at hlexeme
  | bracket _ _ _ _ hopen =>
      rw [openBracket?, if_pos (hopen behind List.prefix_rfl)] at hbracket
      cases hbracket
  | block _ _ _ _ _ _ hinnermost =>
      rw [openBlock?, hinnermost] at hblock
      cases hblock

/-- A directive line at the end opens nothing. -/
theorem fault?_endOfSource (s : Scanner) : s.endOfSource.fault? = s.fault? := by
  unfold endOfSource
  split
  · rename_i lineStart regionStart hmode
    have hnone : s.openLexeme? = none := by rw [openLexeme?, hmode]
    unfold endDirective
    extract_lets line s'
    split_ifs
    · simp [fault?, hnone]
      rfl
    · simp [fault?, hnone]
      rfl
  · rfl

section start

variable {tree : Tree} {base : NodeId} {symbols : Symbols} {t : Text}

/-- A slash that waits for the next character is the last one that was read. -/
theorem exists_slash (h : ((start tree base symbols).scan t).mode = .slash) :
    ∃ front, t = front ++ ['/'] ∧ ((start tree base symbols).scan front).readsPlain '/' = true := by
  rcases List.eq_nil_or_concat t with rfl | ⟨front, c, rfl⟩
  · cases h
  · rw [List.concat_eq_append, scan_concat] at h
    obtain ⟨hplain, rfl⟩ := slash_dispatch h
    exact ⟨front, List.concat_eq_append, hplain⟩

/-- A literal or comment that is reported was opened where the report says and is left open. -/
theorem exists_lexeme {kind : FaultKind} {openedAt : Nat}
    (h : ((start tree base symbols).scan t).openLexeme? = some (kind, openedAt)) :
    ∃ before c behind, t = before ++ c :: behind ∧ openedAt = before.length ∧
      ((start tree base symbols).scan before).LeavesOpen c behind kind := by
  obtain ⟨before, c, behind, rfl, hbefore, hbehind⟩ :=
    exists_since (Q := fun s => s.mode.lexeme? = some (kind, openedAt))
      (by simp [start, Mode.lexeme?]) (lexeme?_of_openLexeme? h)
  have hopened := hbehind [] List.nil_prefix
  rw [scan_concat] at hopened
  simp only [scan_append] at h hbehind
  rcases lexeme?_dispatch hopened with hheld | ⟨hplain, hquote, rfl⟩ | ⟨hslash, rfl, rfl, rfl⟩
  · exact absurd hheld hbefore
  · refine ⟨before, c, behind, rfl, ?_, .literal hplain hquote hbehind h⟩
    rw [offset_scan]
    exact Nat.zero_add _
  · obtain ⟨front, rfl, hplain⟩ := exists_slash hslash
    have hplace : ((start tree base symbols).scan (front ++ ['/'])).offset - 1 =
        ((start tree base symbols).scan front).offset := by
      rw [offset_scan, offset_scan, List.length_append]
      rfl
    refine ⟨front, '/', '*' :: behind, by simp, ?_, .comment hplain rfl rfl ?_⟩
    · rw [hplace, offset_scan]
      exact Nat.zero_add _
    · rw [hplace, scan_append] at hbehind
      exact hbehind

/-- A bracket that is reported was opened where the report says and is left open. -/
theorem exists_bracket (h : 0 < ((start tree base symbols).scan t).brackets) :
    ∃ before c behind, t = before ++ c :: behind ∧
      ((start tree base symbols).scan t).bracketOpenedAt = before.length ∧
      ((start tree base symbols).scan before).LeavesOpen c behind .unclosedBracket := by
  generalize hplace : ((start tree base symbols).scan t).bracketOpenedAt = openedAt
  obtain ⟨before, c, behind, rfl, hbefore, hbehind⟩ :=
    exists_since (Q := fun s => 0 < s.brackets ∧ s.bracketOpenedAt = openedAt)
      (by simp [start]) ⟨h, hplace⟩
  have hopened := hbehind [] List.nil_prefix
  rw [scan_concat] at hopened
  simp only [scan_append] at hbehind
  rcases brackets_dispatch hopened.1 with ⟨hheld, hkept⟩ | ⟨hc, hplain, hnone, hone, hat⟩
  · exact absurd ⟨hheld, hkept.symm.trans hopened.2⟩ hbefore
  · refine ⟨before, c, behind, rfl, ?_, .bracket hplain hc hnone hone fun p hp => (hbehind p hp).1⟩
    rw [← hopened.2, ← Nat.zero_add before.length]
    exact hat.trans (offset_scan _ before)

/-- A block that is reported was opened where the report says and is left open. -/
theorem exists_block {scope : Scope} {outer : List Scope}
    (h : ((start tree base symbols).scan t).scopes = scope :: outer) :
    ∃ before c behind, t = before ++ c :: behind ∧ scope.openedAt = before.length ∧
      ((start tree base symbols).scan before).LeavesOpen c behind .unclosedBlock := by
  obtain ⟨before, behind, rfl, hplace, hplain, hbrackets, hbody, rfl, hbehind⟩ :=
    exists_opening (s := start tree base symbols) rfl ⟨[], h.symm⟩
  rw [scan_append] at h
  simp only [scan_append] at hbehind
  refine ⟨before, '\x7b', behind, rfl, hplace.trans (Nat.zero_add _), ?_⟩
  refine .block hplain rfl hbrackets hbody ?_ hbehind h
  rw [hplace, offset_scan]

/-- Whatever is reported was opened where the report says and is left open. -/
theorem exists_of_found {kind : FaultKind} {openedAt : Nat}
    (h : ((start tree base symbols).scan t).openLexeme?.or
      (((start tree base symbols).scan t).openBracket?.or
        ((start tree base symbols).scan t).openBlock?) = some (kind, openedAt)) :
    ∃ before c behind, t = before ++ c :: behind ∧ openedAt = before.length ∧
      ((start tree base symbols).scan before).LeavesOpen c behind kind := by
  rcases Option.or_eq_some_iff.1 h with hlexeme | ⟨-, hrest⟩
  · exact exists_lexeme hlexeme
  rcases Option.or_eq_some_iff.1 hrest with hbracket | ⟨-, hblock⟩
  · rw [openBracket?, Option.ite_none_right_eq_some] at hbracket
    obtain ⟨hpos, heq⟩ := hbracket
    cases heq
    exact exists_bracket hpos
  · obtain ⟨scope, hscope, heq⟩ := Option.map_eq_some_iff.1 hblock
    obtain ⟨outer, hscopes⟩ := List.head?_eq_some_iff.1 hscope
    cases heq
    exact exists_block hscopes

/-- The source of a scanner is the text that it has read. -/
theorem source_start_scan (tree : Tree) (base : NodeId) (symbols : Symbols) (t : Text) :
    ((start tree base symbols).scan t).source = { chars := t.toArray } := by
  rw [source_scan]
  exact congrArg Source.mk Array.empty_append

/-- What is open at the end was opened by a character and has stayed open. -/
theorem exists_leavesOpen {fault : Fault}
    (h : ((start tree base symbols).scan t).fault? = some fault) :
    ∃ before c behind, t = before ++ c :: behind ∧ fault.offset = before.length ∧
      ((start tree base symbols).scan before).LeavesOpen c behind fault.kind ∧
      fault.location =
        { line := before.count '\n' + 1,
          column := (before.reverse.takeWhile (· != '\n')).length + 1 } := by
  obtain ⟨⟨kind, openedAt⟩, hfound, rfl⟩ := Option.map_eq_some_iff.1 h
  obtain ⟨before, c, behind, rfl, rfl, hopen⟩ := exists_of_found hfound
  refine ⟨before, c, behind, rfl, rfl, hopen, ?_⟩
  change Source.location _ before.length = _
  rw [source_start_scan, Source.location_append]

end start

end Scanner

/-- **A fault points at what was left open.**  A source is at fault exactly if one of its characters
opens a literal, a comment, a bracket or a block that stays open.  The fault names such a character
and its kind; the line is one more than the number of line breaks in front of it, and the column one
more than the number of characters since the last of them. -/
theorem Tree.read_fault (tree : Tree) (base : NodeId) (symbols : Symbols) (t : Text) :
    ((tree.read base symbols t).fault = none ↔
      ∀ before c behind kind, t = before ++ c :: behind →
        ¬ ((Scanner.start tree base symbols).scan before).LeavesOpen c behind kind) ∧
    ∀ fault, (tree.read base symbols t).fault = some fault →
      ∃ before c behind, t = before ++ c :: behind ∧ fault.offset = before.length ∧
        ((Scanner.start tree base symbols).scan before).LeavesOpen c behind fault.kind ∧
        fault.location =
          { line := before.count '\n' + 1,
            column := (before.reverse.takeWhile (· != '\n')).length + 1 } := by
  have hread :
      (tree.read base symbols t).fault = ((Scanner.start tree base symbols).scan t).fault? :=
    Scanner.fault?_endOfSource _
  rw [hread]
  refine ⟨⟨?_, ?_⟩, fun _ hfault => Scanner.exists_leavesOpen hfault⟩
  · rintro hnone before c behind kind rfl hopen
    rw [Scanner.scan_append] at hnone
    exact hopen.fault?_ne_none hnone
  · intro hclosed
    rw [Option.eq_none_iff_forall_ne_some]
    intro fault hfault
    obtain ⟨before, c, behind, ht, -, hopen, -⟩ := Scanner.exists_leavesOpen hfault
    exact hclosed before c behind fault.kind ht hopen

/-- A source whose parameter list is left open, behind a bracket in a string and in front of one in
a comment. -/
def openParameters : Text :=
  "class A \x7b\n  string s = @\"a\"\"(\";\n  int f(int x, /* ) */ int y\n\x7d\n"

/-- The parenthesis of the parameter list is reported, not the bracket in the string. -/
theorem Tree.read_fault_openParameters :
    (Tree.read (.ofLabel "Test") root {} openParameters).fault =
        some { kind := .unclosedBracket, offset := 39, location := { line := 3, column := 8 } } ∧
      ∃ before c behind, openParameters = before ++ c :: behind ∧ 39 = before.length ∧
        ((Scanner.start (.ofLabel "Test") root {}).scan before).LeavesOpen c behind
          .unclosedBracket ∧
        ({ line := 3, column := 8 } : Location) =
          { line := before.count '\n' + 1,
            column := (before.reverse.takeWhile (· != '\n')).length + 1 } := by
  have hfault : (Tree.read (.ofLabel "Test") root {} openParameters).fault =
      some { kind := .unclosedBracket, offset := 39, location := { line := 3, column := 8 } } := by
    decide +kernel
  exact ⟨hfault, (read_fault (.ofLabel "Test") root {} openParameters).2 _ hfault⟩

end DeclAtlas
