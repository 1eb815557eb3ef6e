import Mathlib
import DeclAtlas.Proofs.Reader.Basic

/-!
# Reading whole lines

What a reader at the start of a line does with the line.

* `scan_directiveLine`: a directive line changes the state of conditional compilation and nothing
  else.
* `scan_skippedLine`: in a branch that is left out, a text line changes nothing.
* `scan_textLine`: a text line is read the same way whatever the state of conditional compilation,
  and lexically the same way by every reader; if it is closed, the next line starts in plain text.

A reader that stands at the start of a line is written `r.paused conditions`, where `r` is a reader
in plain text: the mode is then a matter of the conditions alone.
-/

namespace DeclAtlas.Reader

/-! ## Passing over a text -/

/-- The reader behind a text that changes nothing but the trail and the blank line. -/
def pass (r : Reader) (t : Text) : Reader :=
  { r with trail := t.foldl Trail.next r.trail, lineBlank := t.foldl blankBehind r.lineBlank }

/-- A text is passed character by character. -/
theorem pass_cons (r : Reader) (c : Char) (t : Text) : r.pass (c :: t) = (r.keep c).pass t := rfl

/-- Texts are passed one after the other. -/
theorem pass_append (r : Reader) (t u : Text) : r.pass (t ++ u) = (r.pass t).pass u := by
  simp [pass, List.foldl_append]

/-- The reader stands at the start of a line, in plain text. -/
structure AtLine (r : Reader) : Prop where
  /-- The next character is structural. -/
  mode : r.mode = .plain
  /-- The line break does not matter to the next character. -/
  trail : r.trail = .other
  /-- Nothing stands in front of the next character. -/
  lineBlank : r.lineBlank = true

/-- A reader starts at the start of a line. -/
theorem atLine_start (tree : Tree) (base : NodeId) (symbols : Symbols) :
    (start tree base symbols).AtLine :=
  ⟨rfl, rfl, rfl⟩

/-- A line that is passed over leads to the start of the next line. -/
theorem pass_line {r : Reader} (htrail : r.trail = .other) (hblank : r.lineBlank = true)
    (t : Text) : r.pass (t ++ ['\n']) = r := by
  have hline : r.pass (t ++ ['\n']) = { r with trail := .other, lineBlank := true } := by
    rw [pass_append]
    rfl
  rw [hline, ← htrail, ← hblank]

/-- A character that does not end a directive line advances the reader. -/
theorem step_of_mode {r : Reader} {c : Char} (h : ∀ line, r.mode = .directive line → c ≠ '\n') :
    r.step c = (r.advance c).keep c := by
  unfold step dispatch
  split
  · rename_i line hline
    exact absurd rfl (h line hline)
  · rfl

/-! ## Directive lines -/

/-- The reader at the start of a line, in the given state of conditional compilation. -/
def paused (r : Reader) (conditions : Conditions) : Reader :=
  { r with conditions, mode := if conditions.isSkipping then .skipped else .plain }

/-- A directive line is gathered up to its end. -/
theorem scan_directive (r : Reader) (line : Text) {t : Text} (ht : '\n' ∉ t) :
    { r with mode := .directive line }.scan t =
      { r with mode := .directive (line ++ t) }.pass t := by
  induction t generalizing r line with
  | nil => simp [pass]
  | cons c t ih =>
      obtain ⟨hc, ht⟩ := List.ne_and_not_mem_of_not_mem_cons ht
      have hstep : { r with mode := .directive line }.step c =
          { r.keep c with mode := .directive (line ++ [c]) } :=
        step_of_mode fun _ _ => hc.symm
      rw [scan_cons, hstep, ih _ _ ht, pass_cons, List.append_assoc]
      rfl

/-- A sign at the start of a line begins a directive line. -/
theorem step_sign {r : Reader} (h : r.AtLine) (conditions : Conditions) :
    (r.paused conditions).step '#' =
      { r.keep '#' with conditions, mode := .directive ['#'] } := by
  have hmode : ∀ line, (r.paused conditions).mode = .directive line → '#' ≠ '\n' := by
    intro line _
    decide
  rw [step_of_mode hmode]
  unfold paused advance
  cases hskipping : conditions.isSkipping <;>
    simp [Mode.next, Mode.nextPlain, Builder.read, Builder.readPlain, h.lineBlank, keep]

/-- **Directive lines**: a directive line is carried out and leaves all else as it was. -/
theorem scan_directiveLine {r : Reader} (h : r.AtLine) (conditions : Conditions) {t : Text}
    (ht : '\n' ∉ t) :
    (r.paused conditions).scan ('#' :: t ++ ['\n']) =
      r.paused (conditions.apply (Directive.ofLine ('#' :: t))) := by
  have hline : { r.keep '#' with conditions, mode := .directive ['#'] }.scan t =
      { r with conditions, mode := .directive ('#' :: t) }.pass ('#' :: t) :=
    scan_directive { r.keep '#' with conditions } ['#'] ht
  have hend : ({ r with conditions, mode := .directive ('#' :: t) }.pass ('#' :: t)).step '\n' =
      (r.paused (conditions.apply (Directive.ofLine ('#' :: t)))).pass ('#' :: t ++ ['\n']) := by
    rw [pass_append]
    rfl
  rw [List.cons_append, scan_cons, step_sign h, scan_append, hline, scan_cons, hend, scan_nil]
  exact pass_line (r := r.paused _) h.trail h.lineBlank _

/-! ## Lines without a sign in front -/

/-- No sign begins a directive in the rest of a line. -/
def Unsigned (lineBlank : Bool) (t : Text) : Prop :=
  lineBlank = true → (Text.trimStart t).head? ≠ some '#'

/-- If no sign begins a directive in a line, none does behind its first character. -/
theorem Unsigned.tail {lineBlank : Bool} {c : Char} {t : Text} (h : Unsigned lineBlank (c :: t))
    (hc : c ≠ '\n') : ¬ (c = '#' ∧ lineBlank = true) ∧ Unsigned (blankBehind lineBlank c) t := by
  constructor
  · rintro ⟨rfl, hblank⟩
    exact h hblank rfl
  · intro hblank
    simp only [blankBehind, beq_eq_false_iff_ne.mpr hc, Bool.false_eq_true, if_false,
      Bool.and_eq_true] at hblank
    have htrim : Text.trimStart (c :: t) = Text.trimStart t := by
      simp [Text.trimStart, hblank.2]
    exact htrim ▸ h hblank.1

/-- A branch that is left out is passed as long as no directive begins. -/
theorem scan_skipped {r : Reader} (hmode : r.mode = .skipped) {t : Text} (ht : '\n' ∉ t)
    (hsign : Unsigned r.lineBlank t) : r.scan t = r.pass t := by
  induction t generalizing r with
  | nil => rfl
  | cons c t ih =>
      obtain ⟨hc, ht⟩ := List.ne_and_not_mem_of_not_mem_cons ht
      obtain ⟨hfirst, hrest⟩ := hsign.tail hc.symm
      have hstay : { r with mode := .skipped } = r := by rw [← hmode]
      have hadvance : r.advance c = r := by
        unfold advance
        rw [hmode, Mode.next, if_neg hfirst]
        exact hstay
      have hstep : r.step c = r.keep c := by
        rw [step_of_mode fun _ _ => hc.symm, hadvance]
      rw [scan_cons, hstep, ih (r := r.keep c) hmode ht hrest, pass_cons]

/-- In a branch that is left out, a text line changes nothing. -/
theorem scan_skippedLine {r : Reader} (h : r.AtLine) {conditions : Conditions}
    (hskipping : conditions.isSkipping = true) {t : Text} (ht : '\n' ∉ t)
    (hsign : Unsigned true t) :
    (r.paused conditions).scan (t ++ ['\n']) = r.paused conditions := by
  have hmode : (r.paused conditions).mode = .skipped := by simp [paused, hskipping]
  have hbreak : ((r.paused conditions).pass t).step '\n' =
      (r.paused conditions).pass (t ++ ['\n']) := by
    have hadvance : ((r.paused conditions).pass t).advance '\n' =
        (r.paused conditions).pass t := by
      simp [pass, advance, hmode, Mode.next, Builder.read]
    rw [step_of_mode fun line hline => by simp [pass, hmode] at hline, hadvance, pass_append]
    rfl
  have hblank : (r.paused conditions).lineBlank = true := h.lineBlank
  rw [scan_append, scan_skipped hmode ht (hblank ▸ hsign), scan_cons, hbreak, scan_nil]
  exact pass_line (r := r.paused _) h.trail h.lineBlank _

/-! ## Text lines -/

/-- The mode is none of directive lines and branches left out. -/
def Mode.IsText : Mode → Bool
  | .directive _ | .skipped => false
  | _ => true

/-- Text goes on as long as no directive begins. -/
theorem Mode.isText_next {mode : Mode} (h : mode.IsText = true) {trail : Trail} {lineBlank : Bool}
    {c : Char} (hsign : ¬ (c = '#' ∧ lineBlank = true)) :
    (mode.next trail lineBlank c).IsText = true := by
  have hplain : (nextPlain trail lineBlank c).IsText = true := by
    unfold nextPlain
    split
    case h_4 =>
      rw [if_neg fun hblank => hsign ⟨rfl, hblank⟩]
      rfl
    all_goals rfl
  cases mode
  case directive | skipped => cases h
  case plain => exact hplain
  case slash =>
    rw [next]
    split_ifs
    exacts [rfl, rfl, hplain]
  case verbatimQuote =>
    rw [next]
    split_ifs
    exacts [rfl, hplain]
  case stringEscape | charEscape | brokenChar => rfl
  all_goals
    rw [next]
    split_ifs <;> rfl

/-- The reader in another state of conditional compilation. -/
def withConditions (r : Reader) (conditions : Conditions) : Reader :=
  { r with conditions }

/-- Two readers that read the next character alike. -/
structure SameLexing (r r' : Reader) : Prop where
  /-- The same mode. -/
  mode : r.mode = r'.mode
  /-- The same trail. -/
  trail : r.trail = r'.trail
  /-- The line is blank in both or in none. -/
  lineBlank : r.lineBlank = r'.lineBlank

section text

variable {r r' : Reader}

/-- In text a character is read without a look at the conditions. -/
theorem step_of_isText (h : r.mode.IsText = true) (c : Char) : r.step c = (r.advance c).keep c :=
  step_of_mode fun line hline => by simp [hline, Mode.IsText] at h

/-- In text the conditions do not matter. -/
theorem step_withConditions (h : r.mode.IsText = true) (conditions : Conditions) (c : Char) :
    (r.withConditions conditions).step c = (r.step c).withConditions conditions := by
  rw [step_of_isText h, step_of_isText (r := r.withConditions conditions) h]
  rfl

/-- In text readers that read alike go on so. -/
theorem SameLexing.step (h : SameLexing r r') (htext : r.mode.IsText = true) (c : Char) :
    SameLexing (r.step c) (r'.step c) := by
  rw [step_of_isText htext, step_of_isText (h.mode ▸ htext)]
  refine ⟨?_, ?_, ?_⟩
  · change r.mode.next r.trail r.lineBlank c = r'.mode.next r'.trail r'.lineBlank c
    rw [h.mode, h.trail, h.lineBlank]
  · exact congrArg (Trail.next · c) h.trail
  · exact congrArg (blankBehind · c) h.lineBlank

/-- No character of a text line begins a directive, so the line is read alike by readers that start
alike, and conditional compilation plays no part. -/
theorem scan_text (h : SameLexing r r') (htext : r.mode.IsText = true) {t : Text} (ht : '\n' ∉ t)
    (hsign : Unsigned r.lineBlank t) :
    SameLexing (r.scan t) (r'.scan t) ∧ (r.scan t).mode.IsText = true ∧
      ∀ conditions, (r.withConditions conditions).scan t =
        (r.scan t).withConditions conditions := by
  induction t generalizing r r' with
  | nil => exact ⟨h, htext, fun _ => rfl⟩
  | cons c t ih =>
      obtain ⟨hc, ht⟩ := List.ne_and_not_mem_of_not_mem_cons ht
      obtain ⟨hfirst, hrest⟩ := hsign.tail hc.symm
      have hstep := step_of_isText htext c
      have htext' : (r.step c).mode.IsText = true := by
        rw [hstep]
        exact Mode.isText_next htext hfirst
      have hrest' : Unsigned (r.step c).lineBlank t := by
        rw [hstep]
        exact hrest
      obtain ⟨hsame, hmode, hconditions⟩ := ih (h.step htext c) htext' ht hrest'
      refine ⟨hsame, hmode, ?_⟩
      intro conditions
      rw [scan_cons, step_withConditions htext, hconditions, scan_cons]

/-- **Text lines**: a text line that one reader leaves in plain text leads every reader to the start
of the next line, whatever the state of conditional compilation. -/
theorem scan_textLine (h : r.AtLine) (h' : r'.AtLine) {t : Text} (ht : '\n' ∉ t)
    (hsign : Unsigned true t) (hclosed : (r'.scan (t ++ ['\n'])).mode = .plain) :
    (r.scan (t ++ ['\n'])).AtLine ∧
      ∀ {conditions : Conditions}, conditions.isSkipping = false →
        (r.paused conditions).scan (t ++ ['\n']) =
          (r.scan (t ++ ['\n'])).paused conditions := by
  have hsame : SameLexing r r' :=
    ⟨h.mode.trans h'.mode.symm, h.trail.trans h'.trail.symm, h.lineBlank.trans h'.lineBlank.symm⟩
  have hplain : r.mode.IsText = true := by
    rw [h.mode]
    rfl
  obtain ⟨hlexing, htext, hconditions⟩ := scan_text hsame hplain ht (h.lineBlank ▸ hsign)
  have hmode : ((r.scan t).step '\n').mode = .plain := by
    rw [(hlexing.step htext '\n').mode]
    rwa [scan_append] at hclosed
  have hpaused : ∀ {conditions : Conditions} {s : Reader}, s.mode = .plain →
      conditions.isSkipping = false → s.paused conditions = s.withConditions conditions := by
    intro conditions s hs hskipping
    unfold paused withConditions
    rw [hskipping, hs]
    rfl
  rw [scan_append, scan_cons, scan_nil]
  refine ⟨⟨hmode, ?_, ?_⟩, ?_⟩
  · rw [step_of_isText htext]
    rfl
  · rw [step_of_isText htext]
    rfl
  · intro conditions hskipping
    rw [hpaused h.mode hskipping, hpaused hmode hskipping, scan_append, hconditions, scan_cons,
      step_withConditions htext, scan_nil]

end text

end DeclAtlas.Reader
