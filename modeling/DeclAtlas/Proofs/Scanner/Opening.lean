import Mathlib
import DeclAtlas.Proofs.Scanner.Stream

/-!
# Where a block was opened

A character has an effect on blocks and brackets only where it is read as structural text, and
there are three kinds of effects: a boundary is met, a bracket is opened, a bracket is closed.
`Scanner.effect_dispatch` says so once; all that is known about open blocks and open brackets
follows from it.

What is open at the end of a text was opened somewhere, and has been open since.  The run lemma for
this is `Scanner.exists_since`: a property that a text leads to begins to hold at one of its
characters and holds from there on.

* `Scanner.exists_opening`: an open block was opened by a brace in structural text, outside brackets
  and bodies, at the offset that the block remembers, and has been open since.
-/

namespace DeclAtlas.Scanner

/-- The character that comes next is read as structural text.  Behind a quote of a verbatim string
that depends on the character, since a second quote goes on with the string. -/
def readsPlain (s : Scanner) (c : Char) : Bool :=
  match s.mode with
  | .plain | .slash => true
  | .verbatimQuote _ => c != '"'
  | _ => false

/-! ## What one character can do -/

/-- The second state has read the same source for the same node and has the same brackets open. -/
structure SameBrackets (s t : Scanner) : Prop where
  /-- The same source. -/
  source : t.source = s.source
  /-- The same node for declarations outside all blocks. -/
  base : t.base = s.base
  /-- As many brackets are open. -/
  brackets : t.brackets = s.brackets
  /-- The outermost one was opened at the same offset. -/
  bracketOpenedAt : t.bracketOpenedAt = s.bracketOpenedAt

/-- What a character can do to blocks and brackets. -/
inductive Effect (s : Scanner) (c : Char) : Scanner → Prop
  /-- A boundary is met. -/
  | boundary {b : Boundary} (hb : Boundary.ofChar? c = some b) (hplain : s.readsPlain c = true) :
      Effect s c ({ s with mode := .plain }.boundary b)
  /-- A bracket is opened. -/
  | openBracket (hc : c = '(' ∨ c = '[') (hplain : s.readsPlain c = true) :
      Effect s c { s with mode := .plain }.openBracket
  /-- A bracket is closed. -/
  | closeBracket : Effect s c { s with mode := .plain }.closeBracket
  /-- Blocks and brackets are left alone. -/
  | none {t : Scanner} (hstructure : SameStructure s t) (hbrackets : SameBrackets s t) :
      Effect s c t

/-- A state that differs only in how it reads on has the same blocks and brackets. -/
theorem Effect.of_same {s t : Scanner} {c : Char}
    (h : t = { s with
      mode := t.mode, conditions := t.conditions, excluded := t.excluded, summary := t.summary,
      maybeGeneric := t.maybeGeneric }) : Effect s c t := by
  rw [h]
  exact .none ⟨rfl, rfl, rfl, rfl, rfl⟩ ⟨rfl, rfl, rfl, rfl⟩

/-- The effect of a character of plain text on blocks and brackets. -/
theorem effect_stepPlain {s : Scanner} {c : Char} (h : s.readsPlain c = true) :
    Effect s c (s.stepPlain c) := by
  unfold stepPlain
  extract_lets s'
  split
  · exact .of_same rfl
  · exact .of_same rfl
  · exact .of_same rfl
  · split
    · exact .of_same rfl
    · exact .of_same rfl
  · exact .boundary (b := .comma) rfl h
  · exact .boundary (b := .semicolon) rfl h
  · exact .boundary (b := .opening) rfl h
  · exact .boundary (b := .closing) rfl h
  · exact .openBracket (Or.inl rfl) h
  · exact .openBracket (Or.inr rfl) h
  · exact .closeBracket
  · exact .closeBracket
  all_goals exact .of_same rfl

/-- The end of a directive line has no effect on blocks and brackets. -/
theorem effect_endDirective (s : Scanner) (c : Char) (lineStart regionStart : Nat) :
    Effect s c (s.endDirective lineStart regionStart) := by
  unfold endDirective
  extract_lets line s'
  split <;> exact .of_same rfl

/-- **What one character can do** to blocks and brackets, in every mode. -/
theorem effect_dispatch (s : Scanner) (c : Char) : Effect s c (s.dispatch c) := by
  unfold dispatch
  cases hmode : s.mode
  case plain => exact effect_stepPlain (by rw [readsPlain, hmode])
  case slash =>
    change Effect s c (s.stepSlash c)
    unfold stepSlash
    split
    · exact .of_same rfl
    · exact .of_same rfl
    · exact effect_stepPlain (by rw [readsPlain, hmode])
  case verbatimQuote openedAt =>
    change Effect s c (s.stepVerbatimQuote openedAt c)
    unfold stepVerbatimQuote
    split
    · exact .of_same rfl
    · rename_i hquote
      exact effect_stepPlain (by simpa [readsPlain, hmode] using hquote)
  case string openedAt verbatim =>
    change Effect s c (s.stepString openedAt verbatim c)
    unfold stepString
    split <;> exact .of_same rfl
  case char openedAt =>
    change Effect s c (s.stepChar openedAt c)
    unfold stepChar
    split <;> exact .of_same rfl
  case lineComment openedAt =>
    change Effect s c (s.stepLineComment openedAt c)
    unfold stepLineComment
    split
    · split <;> exact .of_same rfl
    · exact .of_same rfl
    · exact .of_same rfl
  case docComment openedAt =>
    change Effect s c (s.stepDocComment openedAt c)
    unfold stepDocComment
    split <;> exact .of_same rfl
  case blockComment openedAt =>
    change Effect s c (s.stepBlockComment openedAt c)
    unfold stepBlockComment
    split <;> exact .of_same rfl
  case directive lineStart regionStart =>
    change Effect s c (s.stepDirective lineStart regionStart c)
    unfold stepDirective
    split
    · exact effect_endDirective s _ lineStart regionStart
    · exact .of_same rfl
  case skipped regionStart =>
    change Effect s c (s.stepSkipped regionStart c)
    unfold stepSkipped
    split
    · split <;> exact .of_same rfl
    · exact .of_same rfl
  case stringEscape | charEscape | brokenChar => exact .of_same rfl

/-! ## Boundaries -/

/-- Taking a header opens and closes no bracket. -/
theorem sameBrackets_take (s : Scanner) (b : Boundary) (header : Header) :
    SameBrackets s (s.take b header).1 := by
  cases header <;> exact ⟨rfl, rfl, rfl, rfl⟩

/-- Entering and leaving scopes opens and closes no bracket. -/
theorem sameBrackets_moveScope (s : Scanner) (b : Boundary) (node : NodeId) (openedAt : Nat) :
    SameBrackets s (s.moveScope b node openedAt) := by
  cases b <;> exact ⟨rfl, rfl, rfl, rfl⟩

/-- States with the same brackets may be compared one after the other. -/
theorem SameBrackets.trans {s t u : Scanner} (h : SameBrackets s t) (h' : SameBrackets t u) :
    SameBrackets s u :=
  ⟨h'.source.trans h.source, h'.base.trans h.base, h'.brackets.trans h.brackets,
    h'.bracketOpenedAt.trans h.bracketOpenedAt⟩

/-- Reading a header opens and closes no bracket. -/
theorem sameBrackets_readHeader (s : Scanner) (b : Boundary) : SameBrackets s (s.readHeader b) := by
  have h : SameBrackets (s.startSpan (s.offset + 1)) (s.readHeader b) :=
    (sameBrackets_take _ b (Header.read (s.context b) s.header)).trans
      (sameBrackets_moveScope _ b _ s.offset)
  exact ⟨h.source, h.base, h.brackets, h.bracketOpenedAt⟩

/-- A boundary leaves brackets alone. -/
theorem sameBrackets_boundary (s : Scanner) (b : Boundary) : SameBrackets s (s.boundary b) := by
  unfold Scanner.boundary
  split_ifs
  · exact ⟨rfl, rfl, rfl, rfl⟩
  · extract_lets counted
    split
    · have h := counted.sameBrackets_readHeader b
      exact ⟨h.source, h.base, h.brackets, h.bracketOpenedAt⟩
    · split_ifs <;> exact ⟨rfl, rfl, rfl, rfl⟩

/-- Taking a header enters and leaves no scope. -/
theorem scopes_take (s : Scanner) (b : Boundary) (header : Header) :
    (s.take b header).1.scopes = s.scopes := by
  cases header <;> rfl

/-- Only the boundary itself opens or closes a block. -/
theorem scopes_readHeader (s : Scanner) (b : Boundary) :
    ∃ node, (s.readHeader b).scopes = (s.moveScope b node s.offset).scopes := by
  let taken := (s.startSpan (s.offset + 1)).take b (Header.read (s.context b) s.header)
  have hscopes : taken.1.scopes = s.scopes := scopes_take (s.startSpan (s.offset + 1)) b _
  refine ⟨taken.2, ?_⟩
  change (taken.1.moveScope b taken.2 s.offset).scopes = _
  cases b <;> simp only [moveScope, hscopes]

/-- A boundary opens a block, outside brackets and bodies, or leaves a part of the open ones. -/
theorem scopes_boundary (s : Scanner) (b : Boundary) :
    (s.boundary b).scopes <:+ s.scopes ∨
      b = .opening ∧ s.brackets = 0 ∧ s.body = none ∧
        ∃ node, (s.boundary b).scopes = { node, openedAt := s.offset } :: s.scopes := by
  unfold Scanner.boundary
  split_ifs with hinert
  · exact Or.inl List.suffix_rfl
  · extract_lets counted
    have hbrackets : s.brackets = 0 := Nat.eq_zero_of_not_pos fun hpos => hinert (Or.inl hpos)
    split
    · rename_i hbody
      obtain ⟨node, hscopes⟩ := counted.scopes_readHeader b
      rw [hscopes]
      cases b with
      | opening => exact Or.inr ⟨rfl, hbrackets, hbody, node, rfl⟩
      | closing => exact Or.inl (List.tail_suffix s.scopes)
      | comma | semicolon => exact Or.inl List.suffix_rfl
    · split_ifs
      · exact Or.inl (List.tail_suffix s.scopes)
      · exact Or.inl List.suffix_rfl

/-- **The blocks that one character opens**: only an opening brace in structural text, outside
brackets and bodies, opens one. -/
theorem scopes_dispatch (s : Scanner) (c : Char) :
    (s.dispatch c).scopes <:+ s.scopes ∨
      c = '\x7b' ∧ s.readsPlain c = true ∧ s.brackets = 0 ∧ s.body = none ∧
        ∃ node, (s.dispatch c).scopes = { node, openedAt := s.offset } :: s.scopes := by
  have heffect := effect_dispatch s c
  generalize s.dispatch c = t at heffect
  cases heffect with
  | @boundary b hb hplain =>
      rcases scopes_boundary { s with mode := .plain } b with h | ⟨rfl, hbrackets, hbody, hopened⟩
      · exact Or.inl h
      · exact Or.inr ⟨Boundary.eq_char_of_ofChar? hb, hplain, hbrackets, hbody, hopened⟩
  | openBracket =>
      rw [(sameStructure_openBracket { s with mode := .plain }).scopes]
      exact Or.inl List.suffix_rfl
  | closeBracket => exact Or.inl List.suffix_rfl
  | none hstructure =>
      rw [hstructure.scopes]
      exact Or.inl List.suffix_rfl

/-! ## Runs -/

/-- No character is kept before it has been dealt with, and none changes where declarations go
outside all blocks. -/
theorem frame_dispatch (s : Scanner) (c : Char) :
    (s.dispatch c).source = s.source ∧ (s.dispatch c).base = s.base := by
  have heffect := effect_dispatch s c
  generalize s.dispatch c = t at heffect
  cases heffect with
  | @boundary b =>
      have h := sameBrackets_boundary { s with mode := .plain } b
      exact ⟨h.source, h.base⟩
  | openBracket =>
      unfold Scanner.openBracket
      split <;> exact ⟨rfl, rfl⟩
  | closeBracket => exact ⟨rfl, rfl⟩
  | none _ hbrackets => exact ⟨hbrackets.source, hbrackets.base⟩

/-- Reading keeps the node below which declarations go. -/
theorem base_scan (s : Scanner) (t : Text) : (s.scan t).base = s.base :=
  scan_induction (P := fun u => u.base = s.base) (fun u c h => (u.frame_dispatch c).2.trans h) rfl t

/-- What has been read is kept. -/
theorem source_scan (s : Scanner) (t : Text) :
    (s.scan t).source = { chars := s.source.chars ++ t.toArray } := by
  induction t generalizing s with
  | nil => simp [scan]
  | cons c t ih =>
      have hstep : (s.step c).source = s.source.push c :=
        congrArg (Source.push · c) (s.frame_dispatch c).1
      change ((s.step c).scan t).source = _
      rw [ih, hstep]
      simp [Source.push]

/-- The offset moves by the length of what is read. -/
theorem offset_scan (s : Scanner) (t : Text) : (s.scan t).offset = s.offset + t.length := by
  rw [offset, source_scan]
  simp [offset, Source.size]

/-- The last character is read last. -/
theorem scan_concat (s : Scanner) (t : Text) (c : Char) : s.scan (t ++ [c]) = (s.scan t).step c :=
  s.scan_append t [c]

/-- **What a text leads to has held since one of its characters.** -/
theorem exists_since {Q : Scanner → Prop} {s : Scanner} (hs : ¬ Q s) {t : Text}
    (h : Q (s.scan t)) :
    ∃ before c behind, t = before ++ c :: behind ∧ ¬ Q (s.scan before) ∧
      ∀ p, p <+: behind → Q (s.scan (before ++ c :: p)) := by
  induction t using List.reverseRecOn with
  | nil => exact absurd h hs
  | append_singleton t c ih =>
      by_cases hheld : Q (s.scan t)
      · obtain ⟨before, d, behind, rfl, hbefore, hbehind⟩ := ih hheld
        refine ⟨before, d, behind ++ [c], by simp, hbefore, ?_⟩
        intro p hp
        rcases List.prefix_concat_iff.1 hp with rfl | hp
        · simpa using h
        · exact hbehind p hp
      · refine ⟨t, c, [], rfl, hheld, ?_⟩
        intro p hp
        rw [List.prefix_nil.1 hp]
        exact h

/-- **Where a block was opened.**  The blocks that are open at the end of a text, from some block
outwards, were opened by a brace at the offset that the block remembers, with the blocks around it
open at the time, and have been open since. -/
theorem exists_opening {s : Scanner} (hs : s.scopes = []) {t : Text} {scope : Scope}
    {outer : List Scope} (h : scope :: outer <:+ (s.scan t).scopes) :
    ∃ before behind, t = before ++ '\x7b' :: behind ∧
      scope.openedAt = s.offset + before.length ∧ (s.scan before).readsPlain '\x7b' = true ∧
      (s.scan before).brackets = 0 ∧ (s.scan before).body = none ∧
      (s.scan before).scopes = outer ∧
      ∀ p, p <+: behind → scope :: outer <:+ (s.scan (before ++ '\x7b' :: p)).scopes := by
  have hstart : ¬ scope :: outer <:+ s.scopes := by
    rw [hs, List.suffix_nil]
    exact List.cons_ne_nil scope outer
  obtain ⟨before, c, behind, rfl, hbefore, hbehind⟩ :=
    exists_since (Q := fun s => scope :: outer <:+ s.scopes) hstart h
  have hopened : scope :: outer <:+ ((s.scan before).dispatch c).scopes := by
    have hfirst := hbehind [] List.nil_prefix
    rw [scan_concat] at hfirst
    exact hfirst
  rcases scopes_dispatch (s.scan before) c with hkept | ⟨rfl, hplain, hbrackets, hbody, node, hnew⟩
  · exact absurd (hopened.trans hkept) hbefore
  · rw [hnew, List.suffix_cons_iff] at hopened
    rcases hopened with heq | hold
    · obtain ⟨rfl, rfl⟩ := List.cons.inj heq
      exact ⟨before, behind, rfl, s.offset_scan before, hplain, hbrackets, hbody, rfl, hbehind⟩
    · exact absurd hold hbefore

end DeclAtlas.Scanner
