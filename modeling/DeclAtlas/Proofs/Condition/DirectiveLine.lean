import Mathlib
import DeclAtlas.Condition.Directive
import DeclAtlas.Proofs.Text.Cutting
import DeclAtlas.Proofs.Text.Words

/-!
# Reading directive lines

A directive line is `#`, a name and what follows it.  `Directive.ofLine` trims the line and takes a
comment off its end before it looks at the name; neither touches the name (`exists_body`), and an
argument that is trimmed and holds no comment is found again as it was written
(`cutName_argument`).
-/

namespace DeclAtlas.Directive

/-- A text that can be the name of a directive. -/
structure IsName (name : Text) : Prop where
  /-- The name is not empty. -/
  ne_nil : name ≠ []
  /-- The name holds no blank, no slash and no sign. -/
  plain : ∀ c ∈ name, Text.isBlank c = false ∧ c ≠ '/' ∧ c ≠ '#'

/-- Whether a text can be the name of a directive can be decided. -/
theorem isName_of_all {name : Text} (hne : name ≠ [])
    (hall : name.all (fun c => !Text.isBlank c && c != '/' && c != '#') = true) : IsName name := by
  refine ⟨hne, ?_⟩
  intro c hc
  have hplain := List.all_eq_true.mp hall c hc
  simpa [and_assoc] using hplain

section body

variable {name : Text}

/-- The name of a directive has no blanks at its end. -/
theorem IsName.trimEnd (h : IsName name) : Text.trimEnd name = name :=
  Text.trimEnd_of_forall fun c hc => (h.plain c hc).1

/-- Without the sign and the blanks at the end, the line begins with the name. -/
theorem body_line (h : IsName name) (tail : Text) :
    body ('#' :: (name ++ tail)) =
      match Text.cutOn? "//" (name ++ Text.trimEnd tail) with
      | none => name ++ Text.trimEnd tail
      | some (front, _) => Text.trimEnd front := by
  obtain ⟨c, rest, rfl⟩ := List.exists_cons_of_ne_nil h.ne_nil
  obtain ⟨hblank, -, hsign⟩ := h.plain c List.mem_cons_self
  have hline : Text.trimEnd ('#' :: (c :: rest)) = '#' :: (c :: rest) :=
    (Text.trimEnd_append (a := ['#']) (by decide) _).trans (congrArg _ h.trimEnd)
  have htrim : Text.trim ('#' :: (c :: rest ++ tail)) =
      '#' :: (c :: rest ++ Text.trimEnd tail) := by
    rw [Text.trim, Text.trimStart_of_head (by decide), ← List.cons_append,
      Text.trimEnd_append hline, List.cons_append]
  have hdrop : ('#' :: (c :: rest ++ Text.trimEnd tail)).dropWhile (· == '#') =
      c :: rest ++ Text.trimEnd tail := by
    simp [hsign]
  have hstart : Text.trimStart (c :: rest ++ Text.trimEnd tail) =
      c :: rest ++ Text.trimEnd tail :=
    Text.trimStart_of_head hblank _
  have hleft : Text.trimStart
      ((Text.trim ('#' :: (c :: rest ++ tail))).dropWhile (· == '#')) =
        c :: rest ++ Text.trimEnd tail := by rw [htrim, hdrop, hstart]
  exact congrArg (fun t => match Text.cutOn? "//" t with
    | none => t
    | some (front, _) => Text.trimEnd front) hleft

/-- Neither trimming nor a comment touches the name, and what is left behind it is a beginning of
what stood there. -/
theorem exists_body (h : IsName name) (tail : Text) :
    ∃ left, left <+: tail ∧ body ('#' :: (name ++ tail)) = name ++ left := by
  have hslash : '/' ∉ name := fun hmem => (h.plain '/' hmem).2.1 rfl
  have hbegins : ∀ t : Text, Text.trimEnd t <+: t := by
    intro t
    obtain ⟨blanks, -, heq⟩ := Text.exists_trimEnd t
    exact ⟨blanks, heq.symm⟩
  have hcut : Text.cutOn? "//" (name ++ Text.trimEnd tail) =
      (Text.cutOn? "//" (Text.trimEnd tail)).map fun cut => (name ++ cut.1, cut.2) :=
    Text.cutOn?_append_of_notMem hslash _
  rw [body_line h, hcut]
  cases hfound : Text.cutOn? "//" (Text.trimEnd tail) with
  | none => exact ⟨Text.trimEnd tail, hbegins tail, rfl⟩
  | some cut =>
      obtain ⟨front, after⟩ := cut
      refine ⟨Text.trimEnd front, ?_, Text.trimEnd_append h.trimEnd front⟩
      have hfront : front <+: Text.trimEnd tail := ⟨_, (Text.eq_of_cutOn? hfound).symm⟩
      exact (hbegins front).trans (hfront.trans (hbegins tail))

/-- In a line without a comment only the blanks at the end are taken away. -/
theorem body_of_uncommented (h : IsName name) {tail : Text}
    (hcomment : ¬ "//".toList <:+: Text.trimEnd tail) :
    body ('#' :: (name ++ tail)) = name ++ Text.trimEnd tail := by
  have hslash : '/' ∉ name := fun hmem => (h.plain '/' hmem).2.1 rfl
  have hcut : Text.cutOn? "//" (name ++ Text.trimEnd tail) = none :=
    (Text.cutOn?_append_of_notMem hslash _).trans
      (congrArg (Option.map _) (Text.cutOn?_of_not_infix hcomment))
  rw [body_line h, hcut]

/-- The text of a directive line, cut behind the name. -/
def cutName (t : Text) : Text × Text :=
  (Text.cutWhere? Text.isBlank t).getD (t, [])

/-- A line may end behind the name. -/
theorem cutName_nil (h : IsName name) : cutName (name ++ []) = (name, []) := by
  rw [List.append_nil, cutName, Text.cutWhere?_of_forall fun c hc => (h.plain c hc).1]
  rfl

/-- The name ends at the first blank. -/
theorem cutName_cons (h : IsName name) {c : Char} (hc : Text.isBlank c = true) (t : Text) :
    cutName (name ++ c :: t) = (name, t) := by
  rw [cutName, Text.cutWhere?_append t (fun d hd => (h.plain d hd).1) hc]
  rfl

/-- A text without blanks is part of the name. -/
theorem cutName_append {front : Text} (hfront : ∀ c ∈ front, Text.isBlank c = false) (t : Text) :
    cutName (front ++ t) = (front ++ (cutName t).1, (cutName t).2) := by
  rw [cutName, Text.cutWhere?_append_of_forall hfront, cutName]
  cases Text.cutWhere? Text.isBlank t <;> rfl

/-- The name ends at the first blank, whatever follows. -/
theorem cutName_body (h : IsName name) {tail : Text}
    (htail : ∀ c ∈ tail.head?, Text.isBlank c = true) :
    (cutName (body ('#' :: (name ++ tail)))).1 = name := by
  obtain ⟨left, hleft, hbody⟩ := exists_body h tail
  rw [hbody]
  cases left with
  | nil => rw [cutName_nil h]
  | cons c left =>
      obtain ⟨rest, rfl⟩ := hleft
      rw [cutName_cons h (htail c rfl)]

/-- An argument that is trimmed and holds no comment is found as it was written. -/
theorem cutName_argument (h : IsName name) {argument : Text}
    (htrim : Text.trim argument = argument) (hcomment : ¬ "//".toList <:+: argument) :
    cutName (body ('#' :: (name ++ ' ' :: argument))) = (name, argument) := by
  have hend : Text.trimEnd argument = argument := Text.trimEnd_of_trim htrim
  have hfree : ¬ "//".toList <:+: ' ' :: argument := by
    rw [List.infix_cons_iff]
    rintro (hbegins | hoccurs)
    · exact absurd (List.cons_prefix_cons.mp hbegins).1 (by decide)
    · exact hcomment hoccurs
  rcases List.eq_nil_or_concat' argument with rfl | ⟨front, c, rfl⟩
  · have hblank : Text.trimEnd [' '] = [] := by decide
    rw [body_of_uncommented h (by decide), hblank]
    exact cutName_nil h
  · have hlast : Text.trimEnd (' ' :: (front ++ [c])) = ' ' :: (front ++ [c]) :=
      Text.trimEnd_of_last (Text.isBlank_of_trimEnd hend) (' ' :: front)
    rw [body_of_uncommented h (hlast.symm ▸ hfree), hlast]
    exact cutName_cons h (by decide) _

end body

/-! ## What the lines ask for -/

/-- The directive of a line is chosen by its name. -/
theorem ofLine_of_cutName {line name argument : Text} (h : cutName (body line) = (name, argument)) :
    ofLine line =
      if name = "define".toList then .define (Text.trim argument)
      else if name = "undef".toList then .undefine (Text.trim argument)
      else if name = "if".toList then .openIf (Text.trim argument)
      else if name = "elif".toList then .elseIf (Text.trim argument)
      else if name = "else".toList then .otherwise
      else if name = "endif".toList then .endIf
      else .other := by
  unfold cutName at h
  unfold ofLine
  simp only [h]

/-- Blanks around an argument do not matter. -/
theorem ofLine_congr {line line' name argument argument' : Text}
    (h : cutName (body line) = (name, argument)) (h' : cutName (body line') = (name, argument'))
    (htrim : Text.trim argument = Text.trim argument') : ofLine line = ofLine line' := by
  rw [ofLine_of_cutName h, ofLine_of_cutName h', htrim]

/-- The names of the directives that do something. -/
def keywords : List Text :=
  ["define".toList, "undef".toList, "if".toList, "elif".toList, "else".toList, "endif".toList]

/-- A directive with any other name is passed over. -/
theorem ofLine_of_notMem_keywords {line name argument : Text}
    (h : cutName (body line) = (name, argument)) (hname : name ∉ keywords) :
    ofLine line = .other := by
  simp only [keywords, List.mem_cons, List.not_mem_nil, or_false, not_or] at hname
  obtain ⟨hdefine, hundef, hif, helif, helse, hendif⟩ := hname
  rw [ofLine_of_cutName h, if_neg hdefine, if_neg hundef, if_neg hif, if_neg helif,
    if_neg helse, if_neg hendif]

/-- A line with an unknown name does nothing. -/
theorem ofLine_other {name : Text} (h : IsName name) (hname : name ∉ keywords) {tail : Text}
    (htail : ∀ c ∈ tail.head?, Text.isBlank c = true) :
    ofLine ('#' :: (name ++ tail)) = .other := by
  have hcut : cutName (body ('#' :: (name ++ tail))) =
      (name, (cutName (body ('#' :: (name ++ tail)))).2) :=
    Prod.ext (cutName_body h htail) rfl
  exact ofLine_of_notMem_keywords hcut hname

/-- The directive line with a name and an argument. -/
def line (name argument : Text) : Text :=
  '#' :: (name ++ ' ' :: argument)

section argument

variable {argument : Text} (htrim : Text.trim argument = argument)
  (hcomment : ¬ "//".toList <:+: argument)

include htrim hcomment

/-- A line that defines a symbol. -/
theorem ofLine_define : ofLine (line "define" argument) = .define argument := by
  have hname : IsName "define".toList := isName_of_all (by decide) (by decide)
  exact (ofLine_of_cutName (cutName_argument hname htrim hcomment)).trans (by rw [htrim]; rfl)

/-- A line that removes a symbol. -/
theorem ofLine_undefine : ofLine (line "undef" argument) = .undefine argument := by
  have hname : IsName "undef".toList := isName_of_all (by decide) (by decide)
  exact (ofLine_of_cutName (cutName_argument hname htrim hcomment)).trans (by rw [htrim]; rfl)

/-- A line that opens a conditional. -/
theorem ofLine_openIf : ofLine (line "if" argument) = .openIf argument := by
  have hname : IsName "if".toList := isName_of_all (by decide) (by decide)
  exact (ofLine_of_cutName (cutName_argument hname htrim hcomment)).trans (by rw [htrim]; rfl)

/-- A line that begins a further branch with a condition. -/
theorem ofLine_elseIf : ofLine (line "elif" argument) = .elseIf argument := by
  have hname : IsName "elif".toList := isName_of_all (by decide) (by decide)
  exact (ofLine_of_cutName (cutName_argument hname htrim hcomment)).trans (by rw [htrim]; rfl)

end argument

end DeclAtlas.Directive
