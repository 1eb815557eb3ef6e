import Mathlib
import DeclAtlas.Proofs.Reader.Refinement
import DeclAtlas.Proofs.Scanner.Opening

/-!
# The text of a header

A header is cut out of the source when its boundary is met, by the offset at which it starts and the
ranges left out of it since.  This module says which characters it consists of.

`Scanner.partAt` tells for every character of a source what it belongs to: structural text with its
literals, a comment, a directive line, or a branch that is left out.

* `Scanner.spanEffect_dispatch`: what one character can do to a header.  It ends the header, belongs
  to it, or is left out of it; only a slash waits for the next character.
* `Scanner.Marked`: the ranges of a header are sorted and hold just what is not structural.  Every
  character keeps this (`Marked.step`), so it holds after every text (`marked_scan`).
* **Theorem** (`Scanner.header_exact`): a header is the structural text since the last boundary that
  ended one.
-/

namespace DeclAtlas

/-! ## The parts of a source -/

/-- The parts of a source. -/
inductive Part where
  /-- Structural text with its literals. -/
  | structural
  /-- A comment with its delimiters; the line break that ends a line comment belongs to it. -/
  | comment
  /-- A directive line, from its sign to its line break. -/
  | directive
  /-- A branch that is left out. -/
  | skipped
  deriving DecidableEq, Repr

/-- A slash in front of this character opens a comment. -/
def OpensComment (next : Option Char) : Prop :=
  next = some '/' ∨ next = some '*'

instance (next : Option Char) : Decidable (OpensComment next) :=
  inferInstanceAs (Decidable (_ ∨ _))

/-- Only a slash or a star makes a comment of the slash in front of it. -/
theorem not_opensComment {c : Char} (hslash : c ≠ '/') (hstar : c ≠ '*') :
    ¬ OpensComment (some c) := by
  simp [OpensComment, hslash, hstar]

/-- The part to which a character of plain text belongs. -/
def Part.ofPlain (lineBlank : Bool) (c : Char) (next : Option Char) : Part :=
  if c = '#' ∧ lineBlank = true then .directive
  else if c = '/' ∧ OpensComment next then .comment
  else .structural

namespace Mode

/-- Inside a literal. -/
def isLiteral : Mode → Bool
  | .string .. | .stringEscape _ | .char _ | .charEscape _ | .brokenChar _ => true
  | _ => false

/-- Where what is being left out of the header began. -/
def regionStart? : Mode → Option Nat
  | .lineComment openedAt | .docComment openedAt | .blockComment openedAt => some openedAt
  | .directive _ regionStart | .skipped regionStart => some regionStart
  | _ => none

/-- Where characters are gathered, the header reaches up to the offset. -/
theorem limit_of_gathers {mode : Mode} (h : mode.Gathers = true) (offset : Nat) :
    mode.limit offset = offset := by
  cases mode
  case slash | lineComment | docComment | blockComment | directive | skipped => cases h
  all_goals rfl

/-- Where something is left out, the header reaches up to where that began. -/
theorem limit_of_region {mode : Mode} {start : Nat} (h : mode.regionStart? = some start)
    (offset : Nat) : mode.limit offset = start := by
  cases mode
  case lineComment | docComment | blockComment | directive | skipped => exact Option.some.inj h
  all_goals cases h

/-- Behind the limit, a slash that waits stands alone. -/
theorem eq_of_limit_slash {offset i : Nat} (hlimit : Mode.slash.limit offset ≤ i)
    (hi : i < offset) : i = offset - 1 := by
  rw [limit] at hlimit
  omega

/-- Behind a lone slash nothing is being left out. -/
theorem ne_slash_of_region {mode : Mode} {start : Nat} (h : mode.regionStart? = some start) :
    mode ≠ .slash := by
  rintro rfl
  cases h

end Mode

namespace Scanner

/-- The part to which the character that comes next belongs.  Whether a slash belongs to a comment
depends on the character behind it. -/
def part (s : Scanner) (c : Char) (next : Option Char) : Part :=
  match s.mode with
  | .plain | .verbatimQuote _ => .ofPlain s.lineBlank c next
  | .slash => if OpensComment (some c) then .comment else .ofPlain s.lineBlank c next
  | .string .. | .stringEscape _ | .char _ | .charEscape _ | .brokenChar _ => .structural
  | .lineComment _ | .docComment _ | .blockComment _ => .comment
  | .directive .. => .directive
  | .skipped _ => if c = '#' ∧ s.lineBlank = true then .directive else .skipped

/-- The part to which the character at an offset of a text belongs, if the text is read from `s`
on. -/
def partAt (s : Scanner) (t : Text) (offset : Nat) : Part :=
  match t.drop offset with
  | [] => .structural
  | c :: behind => (s.scan (t.take offset)).part c behind.head?

/-- The part of a character is known from the text in front of it and the character behind it. -/
theorem partAt_append (s : Scanner) (before : Text) (c : Char) (behind : Text) :
    s.partAt (before ++ c :: behind) before.length = (s.scan before).part c behind.head? := by
  rw [partAt, List.drop_left, List.take_left]

/-- The character is a boundary behind which the next header starts: it is met outside brackets and
what may be type arguments, and either outside bodies or at the end of one. -/
def EndsHeader (s : Scanner) (c : Char) : Prop :=
  s.readsPlain c = true ∧ ∃ b, Boundary.ofChar? c = some b ∧
    ¬ (0 < s.brackets ∨ (b = .comma ∧ s.maybeGeneric = true)) ∧
    ∀ body, s.body = some body → b = .closing ∧ s.nesting - 1 < body.depth

/-- A slash that waits for the next character belongs to the header, if there is one: the character
opens no comment. -/
def Settles (s : Scanner) (c : Char) : Prop :=
  s.mode.Gathers = true ∨ s.mode = .slash ∧ ¬ OpensComment (some c)

/-! ## What one character does to a header -/

/-- What a character can do to the header and to the ranges left out of it. -/
inductive SpanEffect (s : Scanner) (c : Char) : Scanner → Prop
  /-- The next header starts behind the character. -/
  | restarts {t : Scanner} (hends : s.EndsHeader c) (hmode : t.mode = .plain)
      (hstart : t.spanStart = s.offset + 1) (hranges : t.excluded = []) : SpanEffect s c t
  /-- The character belongs to the header, and so does a slash in front of it. -/
  | gathers {t : Scanner} (hends : ¬ s.EndsHeader c) (hmode : t.mode.Gathers = true)
      (hstart : t.spanStart = s.spanStart) (hranges : t.excluded = s.excluded)
      (hpart : ∀ next, s.part c next = .structural) (hfrom : s.Settles c) : SpanEffect s c t
  /-- The character is a slash, and the next one decides. -/
  | waits {t : Scanner} (hends : ¬ s.EndsHeader c) (hmode : t.mode = .slash)
      (hstart : t.spanStart = s.spanStart) (hranges : t.excluded = s.excluded)
      (hpart : ∀ next, s.part c next = .structural ↔ ¬ OpensComment next)
      (hfrom : s.mode.Gathers = true) : SpanEffect s c t
  /-- A directive begins with the character. -/
  | begins {t : Scanner} (hends : ¬ s.EndsHeader c) (hmode : t.mode ≠ .slash)
      (hstart : t.spanStart = s.spanStart) (hranges : t.excluded = s.excluded)
      (hpart : ∀ next, s.part c next ≠ .structural) (hfrom : s.Settles c)
      (hlimit : t.mode.limit (s.offset + 1) = s.offset) : SpanEffect s c t
  /-- What is left out of the header goes on; for a comment this may be its second character. -/
  | leavesOut {t : Scanner} (hends : ¬ s.EndsHeader c) (hmode : t.mode ≠ .slash)
      (hstart : t.spanStart = s.spanStart) (hranges : t.excluded = s.excluded)
      (hpart : ∀ next, s.part c next ≠ .structural)
      (hfrom : s.mode = .slash → OpensComment (some c))
      (hlimit : t.mode.limit (s.offset + 1) = s.mode.limit s.offset) : SpanEffect s c t
  /-- What is left out of the header ends with the character. -/
  | excludes {t : Scanner} (hends : ¬ s.EndsHeader c) (hmode : t.mode = .plain)
      (hstart : t.spanStart = s.spanStart)
      (hranges : t.excluded =
        s.excluded ++ [{ start := s.mode.limit s.offset, stop := s.offset + 1 }])
      (hpart : ∀ next, s.part c next ≠ .structural) (hfrom : s.mode ≠ .slash) : SpanEffect s c t

section plain

variable {s : Scanner} {c : Char}

/-- A character that is not read as plain text ends no header. -/
theorem not_endsHeader_of_readsPlain (h : s.readsPlain c = false) : ¬ s.EndsHeader c := by
  rintro ⟨hplain, -⟩
  rw [h] at hplain
  cases hplain

/-- A character that is no boundary ends no header. -/
theorem not_endsHeader_of_ofChar? (h : Boundary.ofChar? c = none) : ¬ s.EndsHeader c := by
  rintro ⟨-, b, hb, -⟩
  rw [h] at hb
  cases hb

/-- A boundary character in plain text belongs to the header or ends it. -/
theorem spanEffect_boundary {b : Boundary} (hb : Boundary.ofChar? c = some b)
    (hplain : s.readsPlain c = true) (hpart : ∀ next, s.part c next = .structural)
    (hfrom : s.Settles c) : SpanEffect s c ({ s with mode := .plain }.boundary b) := by
  have hends_iff : s.EndsHeader c ↔ ¬ (0 < s.brackets ∨ (b = .comma ∧ s.maybeGeneric = true)) ∧
      ∀ body, s.body = some body → b = .closing ∧ s.nesting - 1 < body.depth := by
    constructor
    · rintro ⟨-, other, hother, h⟩
      cases hb.symm.trans hother
      exact h
    · exact fun h => ⟨hplain, b, hb, h⟩
  unfold Scanner.boundary
  split_ifs with hinert
  · exact .gathers (fun hends => (hends_iff.1 hends).1 hinert) rfl rfl rfl hpart hfrom
  · extract_lets counted
    split
    · rename_i hbody
      have hplace := counted.samePlace_readHeader b
      have hends : s.EndsHeader c := by
        refine hends_iff.2 ⟨hinert, fun body hsome => ?_⟩
        rw [show s.body = none from hbody] at hsome
        cases hsome
      exact .restarts hends hplace.mode hplace.spanStart hplace.excluded
    · rename_i body hbody
      have hsome : s.body = some body := hbody
      split_ifs with hleaves
      · obtain ⟨rfl, hdepth⟩ := hleaves
        refine .restarts (hends_iff.2 ⟨hinert, fun other hother => ?_⟩) rfl rfl rfl
        cases hsome.symm.trans hother
        exact ⟨rfl, hdepth⟩
      · refine .gathers (fun hends => hleaves ?_) rfl rfl rfl hpart hfrom
        obtain ⟨rfl, hdepth⟩ := (hends_iff.1 hends).2 body hsome
        exact ⟨rfl, hdepth⟩

/-- The effect of a character of plain text on the header. -/
theorem spanEffect_stepPlain (hplain : s.readsPlain c = true)
    (hpart : ∀ next, s.part c next = .ofPlain s.lineBlank c next) (hfrom : s.Settles c) :
    SpanEffect s c (s.stepPlain c) := by
  have hgathers : ∀ {t : Scanner}, Boundary.ofChar? c = none → c ≠ '#' → c ≠ '/' →
      t.mode.Gathers = true → t.spanStart = s.spanStart → t.excluded = s.excluded →
      SpanEffect s c t := by
    intro t hchar hsign hslash hmode hstart hranges
    refine .gathers (not_endsHeader_of_ofChar? hchar) hmode hstart hranges (fun next => ?_) hfrom
    rw [hpart, Part.ofPlain, if_neg fun h => hsign h.1, if_neg fun h => hslash h.1]
  have hboundary : ∀ {b : Boundary}, Boundary.ofChar? c = some b → c ≠ '#' → c ≠ '/' →
      SpanEffect s c ({ s with mode := .plain }.boundary b) := by
    intro b hb hsign hslash
    refine spanEffect_boundary hb hplain (fun next => ?_) hfrom
    rw [hpart, Part.ofPlain, if_neg fun h => hsign h.1, if_neg fun h => hslash h.1]
  unfold stepPlain
  extract_lets s'
  split
  · exact hgathers rfl (by decide) (by decide) rfl rfl rfl
  · exact hgathers rfl (by decide) (by decide) rfl rfl rfl
  · have hgathered := hfrom.resolve_right fun h => h.2 (Or.inl rfl)
    refine .waits (not_endsHeader_of_ofChar? rfl) rfl rfl rfl (fun next => ?_) hgathered
    rw [hpart, Part.ofPlain, if_neg (by simp)]
    by_cases hopens : OpensComment next <;> simp [hopens]
  · split_ifs with hblank
    · refine .begins (not_endsHeader_of_ofChar? rfl) (by simp) rfl rfl (fun next => ?_) hfrom rfl
      rw [hpart, Part.ofPlain, if_pos ⟨rfl, hblank⟩]
      decide
    · refine .gathers (not_endsHeader_of_ofChar? rfl) rfl rfl rfl (fun next => ?_) hfrom
      rw [hpart, Part.ofPlain, if_neg fun h => hblank h.2, if_neg (by simp)]
  · exact hboundary (b := .comma) rfl (by decide) (by decide)
  · exact hboundary (b := .semicolon) rfl (by decide) (by decide)
  · exact hboundary (b := .opening) rfl (by decide) (by decide)
  · exact hboundary (b := .closing) rfl (by decide) (by decide)
  · unfold Scanner.openBracket
    split_ifs <;> exact hgathers rfl (by decide) (by decide) rfl rfl rfl
  · unfold Scanner.openBracket
    split_ifs <;> exact hgathers rfl (by decide) (by decide) rfl rfl rfl
  · exact hgathers rfl (by decide) (by decide) rfl rfl rfl
  · exact hgathers rfl (by decide) (by decide) rfl rfl rfl
  · exact hgathers rfl (by decide) (by decide) rfl rfl rfl
  · exact hgathers rfl (by decide) (by decide) rfl rfl rfl
  · exact hgathers rfl (by decide) (by decide) rfl rfl rfl
  · rename_i hslash hsign hcomma hsemicolon hopening hclosing _ _ _ _ _ _ _
    have hchar : Boundary.ofChar? c = none := by
      unfold Boundary.ofChar?
      split <;> simp_all
    exact hgathers hchar hsign hslash rfl rfl rfl

end plain

section modes

variable {s t : Scanner} {c : Char}

/-- A character inside a literal belongs to the header. -/
theorem SpanEffect.of_literal (hs : s.mode.isLiteral = true) (hmode : t.mode.Gathers = true)
    (hstart : t.spanStart = s.spanStart) (hranges : t.excluded = s.excluded) :
    SpanEffect s c t := by
  have hfacts : s.mode.Gathers = true ∧ s.readsPlain c = false ∧
      ∀ next, s.part c next = .structural := by
    unfold readsPlain part
    cases hsmode : s.mode
    case string | stringEscape | char | charEscape | brokenChar => exact ⟨rfl, rfl, fun _ => rfl⟩
    all_goals
      rw [hsmode] at hs
      cases hs
  exact .gathers (not_endsHeader_of_readsPlain hfacts.2.1) hmode hstart hranges hfacts.2.2
    (Or.inl hfacts.1)

/-- What is left out is not read as plain text. -/
theorem readsPlain_of_region {start : Nat} (hs : s.mode.regionStart? = some start) :
    s.readsPlain c = false := by
  unfold readsPlain
  cases hmode : s.mode
  case plain | slash | verbatimQuote =>
    rw [hmode] at hs
    cases hs
  all_goals rfl

/-- What is left out is not structural. -/
theorem part_ne_of_region {start : Nat} (hs : s.mode.regionStart? = some start)
    (next : Option Char) : s.part c next ≠ .structural := by
  unfold part
  cases hmode : s.mode
  case lineComment | docComment | blockComment | directive => simp
  case skipped =>
    dsimp only
    split_ifs <;> simp
  all_goals
    rw [hmode] at hs
    cases hs

/-- What is left out goes on. -/
theorem SpanEffect.of_region {start : Nat} (hs : s.mode.regionStart? = some start)
    (ht : t.mode.regionStart? = some start) (hstart : t.spanStart = s.spanStart)
    (hranges : t.excluded = s.excluded) : SpanEffect s c t := by
  have hlimit : t.mode.limit (s.offset + 1) = s.mode.limit s.offset :=
    (Mode.limit_of_region ht _).trans (Mode.limit_of_region hs _).symm
  exact .leavesOut (not_endsHeader_of_readsPlain (readsPlain_of_region hs))
    (Mode.ne_slash_of_region ht) hstart hranges (part_ne_of_region hs)
    (fun hslash => absurd hslash (Mode.ne_slash_of_region hs)) hlimit

/-- What is left out ends. -/
theorem SpanEffect.of_exclude {start : Nat} (hs : s.mode.regionStart? = some start)
    (hmode : t.mode = .plain) (hstart : t.spanStart = s.spanStart)
    (hranges : t.excluded = s.excluded ++ [{ start, stop := s.offset + 1 }]) :
    SpanEffect s c t := by
  have hlimit := Mode.limit_of_region hs s.offset
  exact .excludes (not_endsHeader_of_readsPlain (readsPlain_of_region hs)) hmode hstart
    (by rw [hranges, hlimit]) (part_ne_of_region hs) (Mode.ne_slash_of_region hs)

end modes

/-- **What one character does to a header**, in every mode. -/
theorem spanEffect_dispatch (s : Scanner) (c : Char) : SpanEffect s c (s.dispatch c) := by
  unfold dispatch
  cases hmode : s.mode
  case plain =>
    exact spanEffect_stepPlain (by rw [readsPlain, hmode]) (fun next => by rw [part, hmode])
      (Or.inl (by rw [hmode]; rfl))
  case slash =>
    have hreads : s.readsPlain c = true := by rw [readsPlain, hmode]
    have hopens : OpensComment (some c) → ∀ next, s.part c next ≠ .structural := by
      intro h next
      rw [part, hmode]
      dsimp only
      rw [if_pos h]
      decide
    change SpanEffect s c (s.stepSlash c)
    unfold stepSlash
    split
    · exact .leavesOut (not_endsHeader_of_ofChar? rfl) (by simp) rfl rfl (hopens (Or.inl rfl))
        (fun _ => Or.inl rfl) (by rw [hmode]; rfl)
    · exact .leavesOut (not_endsHeader_of_ofChar? rfl) (by simp) rfl rfl (hopens (Or.inr rfl))
        (fun _ => Or.inr rfl) (by rw [hmode]; rfl)
    · rename_i hslash hstar
      have hcloses := not_opensComment hslash hstar
      refine spanEffect_stepPlain hreads (fun next => ?_) (Or.inr ⟨hmode, hcloses⟩)
      rw [part, hmode]
      exact if_neg hcloses
  case verbatimQuote openedAt =>
    have hgathers : s.mode.Gathers = true := by rw [hmode]; rfl
    have hpart : ∀ next, s.part c next = .ofPlain s.lineBlank c next := fun next => by
      rw [part, hmode]
    change SpanEffect s c (s.stepVerbatimQuote openedAt c)
    unfold stepVerbatimQuote
    split
    · refine .gathers (not_endsHeader_of_ofChar? rfl) rfl rfl rfl (fun next => ?_) (Or.inl hgathers)
      rw [hpart, Part.ofPlain, if_neg (by simp), if_neg (by simp)]
    · rename_i hquote
      exact spanEffect_stepPlain (by simpa [readsPlain, hmode] using hquote) hpart (Or.inl hgathers)
  case string openedAt verbatim =>
    have hliteral : s.mode.isLiteral = true := by rw [hmode]; rfl
    change SpanEffect s c (s.stepString openedAt verbatim c)
    unfold stepString
    split
    · exact .of_literal hliteral rfl rfl rfl
    · exact .of_literal hliteral rfl rfl rfl
    · exact .of_literal hliteral rfl rfl rfl
    · exact .of_literal hliteral (by rw [hmode]; rfl) rfl rfl
  case char openedAt =>
    have hliteral : s.mode.isLiteral = true := by rw [hmode]; rfl
    change SpanEffect s c (s.stepChar openedAt c)
    unfold stepChar
    split
    · exact .of_literal hliteral rfl rfl rfl
    · exact .of_literal hliteral rfl rfl rfl
    · exact .of_literal hliteral rfl rfl rfl
    · exact .of_literal hliteral (by rw [hmode]; rfl) rfl rfl
  case stringEscape | charEscape => exact .of_literal (by rw [hmode]; rfl) rfl rfl rfl
  case brokenChar => exact .of_literal (by rw [hmode]; rfl) (by rw [hmode]; rfl) rfl rfl
  case lineComment openedAt =>
    have hregion : s.mode.regionStart? = some openedAt := by rw [hmode]; rfl
    change SpanEffect s c (s.stepLineComment openedAt c)
    unfold stepLineComment
    split
    · split_ifs
      · exact .of_region hregion rfl rfl rfl
      · exact .of_region hregion hregion rfl rfl
    · exact .of_exclude hregion rfl rfl rfl
    · exact .of_region hregion hregion rfl rfl
  case docComment openedAt =>
    have hregion : s.mode.regionStart? = some openedAt := by rw [hmode]; rfl
    change SpanEffect s c (s.stepDocComment openedAt c)
    unfold stepDocComment
    split
    · exact .of_exclude hregion rfl rfl rfl
    · exact .of_region hregion hregion rfl rfl
  case blockComment openedAt =>
    have hregion : s.mode.regionStart? = some openedAt := by rw [hmode]; rfl
    change SpanEffect s c (s.stepBlockComment openedAt c)
    unfold stepBlockComment
    split_ifs
    · exact .of_exclude hregion rfl rfl rfl
    · exact .of_region hregion hregion rfl rfl
  case directive lineStart regionStart =>
    have hregion : s.mode.regionStart? = some regionStart := by rw [hmode]; rfl
    change SpanEffect s c (s.stepDirective lineStart regionStart c)
    unfold stepDirective
    split
    · unfold endDirective
      extract_lets line s'
      split_ifs
      · exact .of_region hregion rfl rfl rfl
      · exact .of_exclude hregion rfl rfl rfl
    · exact .of_region hregion hregion rfl rfl
  case skipped regionStart =>
    have hregion : s.mode.regionStart? = some regionStart := by rw [hmode]; rfl
    change SpanEffect s c (s.stepSkipped regionStart c)
    unfold stepSkipped
    split
    · split_ifs
      · exact .of_region hregion rfl rfl rfl
      · exact .of_region hregion hregion rfl rfl
    · exact .of_region hregion hregion rfl rfl

/-! ## The ranges left out of a header -/

/-- Up to the limit of the mode, the ranges left out of a header hold the offsets that are not
structural.  Behind the limit either something is being left out, or a slash waits for the character
that comes next. -/
structure Marked (structural : Nat → Prop) (next : Option Char) (start : Nat) (ranges : List Range)
    (mode : Mode) (offset : Nat) : Prop where
  /-- No range starts in front of the header. -/
  start_le : ∀ range ∈ ranges, start ≤ range.start
  /-- No range starts before an earlier one has ended. -/
  pairwise : ranges.Pairwise fun first second => first.stop ≤ second.start
  /-- The ranges hold what is not structural. -/
  covered : ∀ i, start ≤ i → i < mode.limit offset →
    ((∃ range ∈ ranges, i ∈ range) ↔ ¬ structural i)
  /-- What is being left out is not structural. -/
  leftOut : mode ≠ .slash → ∀ i, mode.limit offset ≤ i → i < offset → ¬ structural i
  /-- A slash is structural unless it opens a comment. -/
  waiting : mode = .slash → (structural (offset - 1) ↔ ¬ OpensComment next)

section marked

variable {s : Scanner} {structural : Nat → Prop} {c : Char} {next : Option Char}

/-- A header that starts here holds nothing yet. -/
theorem marked_nil (offset : Nat) : Marked structural next offset [] .plain offset where
  start_le := List.forall_mem_nil _
  pairwise := .nil
  covered _ hi hlimit := absurd hlimit (Nat.not_lt.2 hi)
  leftOut _ _ hlimit hi := absurd hi (Nat.not_lt.2 hlimit)
  waiting hslash := by cases hslash

/-- Nothing behind the limit has been left out. -/
theorem Spans.not_mem {limit i : Nat} (h : s.Spans limit) (hi : limit ≤ i) :
    ¬ ∃ range ∈ s.excluded, i ∈ range := by
  rintro ⟨range, hrange, hmem⟩
  exact absurd (hmem.2.trans_le (h.ranges range hrange).2) (Nat.not_lt.2 hi)

variable (h : Marked structural (some c) s.spanStart s.excluded s.mode s.offset)

include h

/-- What waits for a character that opens no comment is structural. -/
theorem Marked.structural_of_waiting (hfrom : s.Settles c) :
    ∀ i, s.mode.limit s.offset ≤ i → i < s.offset → structural i := by
  intro i hlimit hoffset
  rcases hfrom with hgathers | ⟨hslash, hopens⟩
  · rw [Mode.limit_of_gathers hgathers] at hlimit
    omega
  · rw [hslash] at hlimit
    rw [Mode.eq_of_limit_slash hlimit hoffset]
    exact (h.waiting hslash).2 hopens

/-- What stands behind the limit in front of a character that is left out is left out too. -/
theorem Marked.not_structural_of_leftOut (hfrom : s.mode = .slash → OpensComment (some c)) :
    ∀ i, s.mode.limit s.offset ≤ i → i < s.offset → ¬ structural i := by
  by_cases hslash : s.mode = .slash
  · intro i hlimit hoffset
    rw [hslash] at hlimit
    rw [Mode.eq_of_limit_slash hlimit hoffset]
    exact fun hstructural => (h.waiting hslash).1 hstructural (hfrom hslash)
  · exact h.leftOut hslash

/-- Where the header goes on, all that is settled now and was not before is structural. -/
theorem Marked.covered_of_structural (hspans : s.Spans (s.mode.limit s.offset)) {limit : Nat}
    (hnew : ∀ i, s.mode.limit s.offset ≤ i → i < limit → structural i) :
    ∀ i, s.spanStart ≤ i → i < limit → ((∃ range ∈ s.excluded, i ∈ range) ↔ ¬ structural i) := by
  intro i hstart hi
  rcases Nat.lt_or_ge i (s.mode.limit s.offset) with hold | hbehind
  · exact h.covered i hstart hold
  · exact iff_of_false (hspans.not_mem hbehind) (not_not.2 (hnew i hbehind hi))

/-- Where something has been left out, the range for it holds all that was not settled before. -/
theorem Marked.exclude (hspans : s.Spans (s.mode.limit s.offset)) (hmode : s.mode ≠ .slash)
    (hc : ¬ structural s.offset) :
    Marked structural next s.spanStart
      (s.excluded ++ [{ start := s.mode.limit s.offset, stop := s.offset + 1 }]) .plain
      (s.offset + 1) where
  start_le := List.forall_mem_append.2 ⟨h.start_le, List.forall_mem_singleton.2 hspans.start_le⟩
  pairwise := by
    refine List.pairwise_append.2 ⟨h.pairwise, List.pairwise_singleton _ _, ?_⟩
    intro range hrange other hother
    rw [List.mem_singleton.1 hother]
    exact (hspans.ranges range hrange).2
  covered i hi hlt := by
    simp only [List.mem_append, List.mem_singleton, or_and_right, exists_or, exists_eq_left]
    rcases Nat.lt_or_ge i (s.mode.limit s.offset) with hold | hbehind
    · rw [or_iff_left fun hmem => absurd hmem.1 (Nat.not_le.2 hold)]
      exact h.covered i hi hold
    · refine iff_of_true (Or.inr ⟨hbehind, hlt⟩) ?_
      rcases Nat.lt_succ_iff_lt_or_eq.1 hlt with hlt | rfl
      · exact h.leftOut hmode i hbehind hlt
      · exact hc
  leftOut _ i hle hlt := absurd hlt (Nat.not_lt.2 hle)
  waiting hslash := by cases hslash

/-- **One character** keeps the marks. -/
theorem Marked.step (hspans : s.Spans (s.mode.limit s.offset))
    (hc : structural s.offset ↔ s.part c next = .structural) :
    Marked structural next (s.step c).spanStart (s.step c).excluded (s.step c).mode
      (s.step c).offset := by
  have hoffset : (s.step c).offset = s.offset + 1 := by
    rw [Scanner.step, offset_keep, offset, (s.frame_dispatch c).1]
    rfl
  rw [hoffset]
  change Marked structural next (s.dispatch c).spanStart (s.dispatch c).excluded
    (s.dispatch c).mode (s.offset + 1)
  have heffect := spanEffect_dispatch s c
  generalize s.dispatch c = t at heffect
  cases heffect with
  | restarts hends hmode hstart hranges =>
      rw [hmode, hstart, hranges]
      exact marked_nil (s.offset + 1)
  | gathers hends hmode hstart hranges hpart hfrom =>
      have hlimit := Mode.limit_of_gathers hmode (s.offset + 1)
      have hwaiting := h.structural_of_waiting hfrom
      rw [hstart, hranges]
      refine ⟨h.start_le, h.pairwise, ?_, ?_, ?_⟩
      · rw [hlimit]
        refine h.covered_of_structural hspans fun i hi hlt => ?_
        rcases Nat.lt_succ_iff_lt_or_eq.1 hlt with hlt | rfl
        · exact hwaiting i hi hlt
        · exact hc.2 (hpart next)
      · rw [hlimit]
        intro _ i hle hlt
        exact absurd hlt (Nat.not_lt.2 hle)
      · intro hslash
        rw [hslash] at hmode
        cases hmode
  | waits hends hmode hstart hranges hpart hfrom =>
      rw [hmode, hstart, hranges]
      refine ⟨h.start_le, h.pairwise, ?_, fun hslash => absurd rfl hslash, fun _ => ?_⟩
      · exact h.covered_of_structural hspans (h.structural_of_waiting (Or.inl hfrom))
      · exact hc.trans (hpart next)
  | begins hends hmode hstart hranges hpart hfrom hlimit =>
      rw [hstart, hranges]
      refine ⟨h.start_le, h.pairwise, ?_, fun _ i hle hlt => ?_, fun hslash => absurd hslash hmode⟩
      · rw [hlimit]
        exact h.covered_of_structural hspans (h.structural_of_waiting hfrom)
      · rw [hlimit] at hle
        obtain rfl : i = s.offset := by omega
        exact mt hc.1 (hpart next)
  | leavesOut hends hmode hstart hranges hpart hfrom hlimit =>
      rw [hstart, hranges]
      refine ⟨h.start_le, h.pairwise, ?_, fun _ i hle hlt => ?_, fun hslash => absurd hslash hmode⟩
      · rw [hlimit]
        exact h.covered
      · rw [hlimit] at hle
        rcases Nat.lt_succ_iff_lt_or_eq.1 hlt with hlt | rfl
        · exact h.not_structural_of_leftOut hfrom i hle hlt
        · exact mt hc.1 (hpart next)
  | excludes hends hmode hstart hranges hpart hfrom =>
      rw [hmode, hstart, hranges]
      exact h.exclude hspans hfrom (mt hc.1 (hpart next))

/-- The header consists of the structural characters if it ends in front of one that opens no
comment. -/
theorem Marked.header_eq [DecidablePred structural] (hspans : s.Spans (s.mode.limit s.offset))
    (hfrom : s.Settles c) :
    s.header = s.source.pick s.spanStart s.offset fun i => structural i := by
  have hordered : Range.Ordered s.excluded :=
    ⟨fun range hrange => (hspans.ranges range hrange).1.le, h.pairwise⟩
  rw [header, Source.sliceExcluding_eq_pick s.source hordered]
  refine s.source.pick_congr fun i hstart hstop => ?_
  have hcovered := h.covered_of_structural hspans (h.structural_of_waiting hfrom) i hstart hstop
  rw [decide_eq_decide, ← not_iff_not, ← hcovered]
  simp only [not_forall, not_not, exists_prop]

end marked

/-- Boundary characters open no comment, so a slash in front of one belongs to the header. -/
theorem settles_of_boundary {s : Scanner} {c : Char} {b : Boundary} (hplain : s.readsPlain c = true)
    (hb : Boundary.ofChar? c = some b) : s.Settles c := by
  unfold readsPlain at hplain
  unfold Settles
  cases hmode : s.mode
  case plain | verbatimQuote => exact Or.inl rfl
  case slash =>
    refine Or.inr ⟨rfl, ?_⟩
    rw [Boundary.eq_char_of_ofChar? hb]
    cases b <;> decide
  all_goals
    rw [hmode] at hplain
    cases hplain

/-- A header starts behind a character that ends one, and nowhere else. -/
theorem spanStart_step (s : Scanner) (c : Char) :
    s.EndsHeader c ∧ (s.step c).spanStart = s.offset + 1 ∨
      ¬ s.EndsHeader c ∧ (s.step c).spanStart = s.spanStart := by
  change _ ∧ (s.dispatch c).spanStart = _ ∨ _ ∧ (s.dispatch c).spanStart = _
  have heffect := spanEffect_dispatch s c
  generalize s.dispatch c = t at heffect
  cases heffect with
  | restarts hends _ hstart => exact Or.inl ⟨hends, hstart⟩
  | gathers hends _ hstart | waits hends _ hstart | begins hends _ hstart
  | leavesOut hends _ hstart | excludes hends _ hstart => exact Or.inr ⟨hends, hstart⟩

/-! ## Runs -/

/-- Where the current header starts: behind the last character of a text that ends a header, or at
the start of the text. -/
structure HeaderStart (s : Scanner) (t : Text) (start : Nat) : Prop where
  /-- No header ends there or later. -/
  last : ∀ before c behind, t = before ++ c :: behind → (s.scan before).EndsHeader c →
    before.length < start
  /-- A header ends right in front of it, if anything stands there. -/
  behind_end : start = 0 ∨ ∃ before c behind, t = before ++ c :: behind ∧
    (s.scan before).EndsHeader c ∧ start = before.length + 1

section run

variable (tree : Tree) (base : NodeId) (symbols : Symbols)

/-- The offset counts the characters that have been read. -/
theorem offset_scan_start (t : Text) : ((start tree base symbols).scan t).offset = t.length := by
  rw [offset_scan]
  exact Nat.zero_add _

/-- The ranges left out of the header end in front of its limit, behind every text. -/
theorem spans_scan_start (t : Text) :
    ((start tree base symbols).scan t).Spans
      (((start tree base symbols).scan t).mode.limit ((start tree base symbols).scan t).offset) :=
  ((readsAs_start tree base symbols).scan t).spans

/-- **Every text** keeps the marks. -/
theorem marked_scan (before behind : Text) :
    Marked (fun i => (start tree base symbols).partAt (before ++ behind) i = .structural)
      behind.head? ((start tree base symbols).scan before).spanStart
      ((start tree base symbols).scan before).excluded ((start tree base symbols).scan before).mode
      ((start tree base symbols).scan before).offset := by
  induction before using List.reverseRecOn generalizing behind with
  | nil => exact marked_nil 0
  | append_singleton before c ih =>
      rw [scan_concat, List.append_assoc, List.singleton_append]
      refine (ih (c :: behind)).step (spans_scan_start tree base symbols before) ?_
      rw [offset_scan_start, partAt_append]

/-- The current header starts behind the last character that ended one. -/
theorem headerStart_scan (t : Text) :
    (start tree base symbols).HeaderStart t ((start tree base symbols).scan t).spanStart := by
  induction t using List.reverseRecOn with
  | nil => exact ⟨fun before c behind h => by simp at h, Or.inl rfl⟩
  | append_singleton t c ih =>
      rw [scan_concat]
      have hstep := spanStart_step ((start tree base symbols).scan t) c
      rcases hstep with ⟨hends, hstart⟩ | ⟨hgoesOn, hstart⟩
      · rw [hstart, offset_scan_start]
        refine ⟨fun before d behind ht _ => ?_, Or.inr ⟨t, c, [], rfl, hends, rfl⟩⟩
        have hlength := congrArg List.length ht
        simp only [List.length_append, List.length_cons, List.length_nil] at hlength
        omega
      · rw [hstart]
        refine ⟨fun before d behind ht hends => ?_, ?_⟩
        · rcases List.eq_nil_or_concat' behind with rfl | ⟨behind, e, rfl⟩
          · obtain ⟨rfl, hcd⟩ := List.append_inj' ht rfl
            rw [List.singleton_inj.1 hcd] at hgoesOn
            exact absurd hends hgoesOn
          · rw [← List.cons_append, ← List.append_assoc] at ht
            exact ih.last before d behind (List.append_inj' ht rfl).1 hends
        · refine ih.behind_end.imp id ?_
          rintro ⟨before, d, behind, rfl, hends, hoffset⟩
          exact ⟨before, d, behind ++ [c], by simp, hends, hoffset⟩

end run

/-- **A header is the structural text since the last boundary.**  Wherever a boundary character is
met in structural text of any source:

* the ranges left out of the header in front of it are not empty, sorted and without overlap, and
  lie between its start and its end;
* it starts behind the last character that ended a header;
* its text is that of the characters from there on which belong to no comment, directive line or
  branch left out.

For any sorted ranges without overlap and any two ends, leaving the ranges out of a slice leaves the
characters of the source between the ends that lie in none of them, in order. -/
theorem header_exact :
    (∀ (tree : Tree) (base : NodeId) (symbols : Symbols) (before : Text) (c : Char) (behind : Text)
        (b : Boundary),
      let s := (start tree base symbols).scan before
      s.readsPlain c = true → Boundary.ofChar? c = some b →
        (∀ range ∈ s.excluded,
          range.start < range.stop ∧ s.spanStart ≤ range.start ∧ range.stop ≤ s.offset) ∧
        s.excluded.Pairwise (fun first second => first.stop ≤ second.start) ∧
        (start tree base symbols).HeaderStart before s.spanStart ∧
        s.header = (Source.ofText before).pick s.spanStart s.offset fun i =>
          (start tree base symbols).partAt (before ++ c :: behind) i = .structural) ∧
      ∀ (source : Source) (start stop : Nat) (ranges : List Range), Range.Ordered ranges →
        source.sliceExcluding start stop ranges =
          source.pick start stop fun i => ∀ range ∈ ranges, i ∉ range := by
  refine ⟨?_, fun source start stop ranges hordered => source.sliceExcluding_eq_pick hordered⟩
  intro tree base symbols before c behind b s hplain hb
  have hmarked := marked_scan tree base symbols before (c :: behind)
  have hspans := spans_scan_start tree base symbols before
  have hsource : s.source = Source.ofText before := by
    rw [source_scan]
    exact congrArg Source.mk Array.empty_append
  refine ⟨?_, hmarked.pairwise, headerStart_scan tree base symbols before, ?_⟩
  · intro range hrange
    obtain ⟨hnonempty, hstop⟩ := hspans.ranges range hrange
    exact ⟨hnonempty, hmarked.start_le range hrange, hstop.trans hspans.stop_le⟩
  · rw [← hsource]
    exact hmarked.header_eq hspans (settles_of_boundary hplain hb)

/-- A field with comments in front of and behind its name, a branch that is left out and a
quotient. -/
def commentedField : Text :=
  "class C \x7b int/*;*/ n // all;\n#if A\nskipped;\n#elif B\n= '/'/2\n#endif\n"

/-- The header of the commented field has no comments, no directives and no branch that is left
out. -/
theorem header_exact_commentedField :
    let first := start (Tree.ofLabel "Test") Tree.root { names := ["B".toList] }
    let s := first.scan commentedField
    s.readsPlain ';' = true ∧ s.spanStart = 9 ∧
      s.excluded = [⟨13, 18⟩, ⟨21, 29⟩, ⟨29, 52⟩, ⟨60, 67⟩] ∧
      s.header = " int n = '/'/2\n".toList ∧
      s.header = (Source.ofText commentedField).pick 9 67 fun i =>
        first.partAt (commentedField ++ [';']) i = .structural := by
  intro first s
  have hplace : s.readsPlain ';' = true ∧ s.spanStart = 9 ∧ s.offset = 67 ∧
      s.excluded = [⟨13, 18⟩, ⟨21, 29⟩, ⟨29, 52⟩, ⟨60, 67⟩] ∧
      s.header = " int n = '/'/2\n".toList := by decide +kernel
  obtain ⟨hplain, hstart, hoffset, hranges, hheader⟩ := hplace
  refine ⟨hplain, hstart, hranges, hheader, ?_⟩
  rw [← hstart, ← hoffset]
  exact (header_exact.1 _ _ _ commentedField ';' [] .semicolon hplain rfl).2.2.2

end Scanner

end DeclAtlas
