import Mathlib
import DeclAtlas.Proofs.Text.Words

/-!
# Cutting texts that are put together

What the cutting functions give on a text that is written as a concatenation.
-/

namespace DeclAtlas.Text

/-- A text is cut at the first character that satisfies the predicate. -/
theorem cutWhere?_append {p : Char → Bool} {before : Text} {c : Char} (after : Text)
    (hbefore : ∀ d ∈ before, p d = false) (hc : p c = true) :
    cutWhere? p (before ++ c :: after) = some (before, after) := by
  induction before with
  | nil => simp [cutWhere?, hc]
  | cons d before ih =>
      have hd : p d = false := hbefore d List.mem_cons_self
      have hrest : ∀ e ∈ before, p e = false := fun e he => hbefore e (List.mem_cons_of_mem d he)
      simp [cutWhere?, hd, ih hrest]

/-- A cut is made behind a text without such characters. -/
theorem cutWhere?_append_of_forall {p : Char → Bool} {front : Text}
    (hfront : ∀ c ∈ front, p c = false) (t : Text) :
    cutWhere? p (front ++ t) = (cutWhere? p t).map fun cut => (front ++ cut.1, cut.2) := by
  induction front with
  | nil => simp
  | cons c front ih =>
      have hc : p c = false := hfront c List.mem_cons_self
      rw [List.cons_append, cutWhere?, hc, ih fun d hd => hfront d (List.mem_cons_of_mem c hd)]
      simp [Option.map_map, Function.comp_def]

/-- A text is cut at the first occurrence of a character. -/
theorem cutAt?_append {c : Char} {before : Text} (after : Text) (hbefore : c ∉ before) :
    cutAt? c (before ++ c :: after) = some (before, after) := by
  apply cutWhere?_append after
  · intro d hd
    simp only [beq_eq_false_iff_ne]
    rintro rfl
    exact hbefore hd
  · simp

/-- Where no character cuts, nothing is cut. -/
theorem cutWhere?_of_forall {p : Char → Bool} {t : Text} (ht : ∀ c ∈ t, p c = false) :
    cutWhere? p t = none := by
  induction t with
  | nil => rfl
  | cons c t ih =>
      have hc : p c = false := ht c List.mem_cons_self
      have hrest := ih fun d hd => ht d (List.mem_cons_of_mem c hd)
      simp [cutWhere?, hc, hrest]

/-- The cut is at the first such character. -/
theorem cutAt?_eq_some_iff {c : Char} {t before after : Text} :
    cutAt? c t = some (before, after) ↔ t = before ++ c :: after ∧ c ∉ before := by
  constructor
  · intro h
    obtain ⟨d, hd, heq, hbefore⟩ := eq_of_cutWhere? h
    obtain rfl : d = c := by simpa using hd
    refine ⟨heq, fun hmem => ?_⟩
    simpa using hbefore d hmem
  · rintro ⟨rfl, hbefore⟩
    exact cutAt?_append after hbefore

/-- There is no cut if there is no such character. -/
theorem cutAt?_eq_none_iff {c : Char} {t : Text} : cutAt? c t = none ↔ c ∉ t := by
  constructor
  · intro h hmem
    obtain ⟨before, after, rfl, hbefore⟩ := List.eq_append_cons_of_mem hmem
    rw [cutAt?_append after hbefore] at h
    cases h
  · intro h
    refine cutWhere?_of_forall fun d hd => ?_
    simp only [beq_eq_false_iff_ne]
    rintro rfl
    exact h hd

/-- The last such character is the first one of the reversed text. -/
theorem cutAtLast?_eq (c : Char) (t : Text) :
    cutAtLast? c t = (cutAt? c t.reverse).map fun cut => (cut.2.reverse, cut.1.reverse) := rfl

/-- The cut is at the last such character. -/
theorem cutAtLast?_eq_some_iff {c : Char} {t before after : Text} :
    cutAtLast? c t = some (before, after) ↔ t = before ++ c :: after ∧ c ∉ after := by
  rw [cutAtLast?_eq, Option.map_eq_some_iff]
  constructor
  · rintro ⟨⟨behind, front⟩, hcut, heq⟩
    obtain ⟨hreverse, hbehind⟩ := cutAt?_eq_some_iff.1 hcut
    obtain ⟨rfl, rfl⟩ := Prod.mk.inj heq
    rw [List.reverse_eq_iff] at hreverse
    exact ⟨by simpa using hreverse, by simpa using hbehind⟩
  · rintro ⟨rfl, hafter⟩
    have hcut : cutAt? c (before ++ c :: after).reverse = some (after.reverse, before.reverse) :=
      cutAt?_eq_some_iff.2 ⟨by simp, by simpa using hafter⟩
    exact ⟨_, hcut, by simp⟩

/-- There is no last cut if there is no such character. -/
theorem cutAtLast?_eq_none_iff {c : Char} {t : Text} : cutAtLast? c t = none ↔ c ∉ t := by
  rw [cutAtLast?_eq, Option.map_eq_none_iff, cutAt?_eq_none_iff, List.mem_reverse]

/-- To look at every place of a character is to look at every offset. -/
theorem forall_cut {t : Text} {c : Char} {P : Text → Text → Prop}
    (h : ∀ i < t.length, t[i]? = some c → P (t.take i) (t.drop (i + 1))) (front behind : Text)
    (heq : t = front ++ c :: behind) : P front behind := by
  subst heq
  simpa using h front.length (by simp) (by simp)

/-! ## Patterns -/

/-- A pattern that occurs has a first occurrence. -/
theorem exists_first_infix {pattern t : Text} (hne : pattern ≠ []) (h : pattern <:+: t) :
    ∃ a b, t = a ++ pattern ++ b ∧ ¬ pattern <:+: a := by
  obtain ⟨a, b, rfl⟩ := h
  induction hn : a.length using Nat.strong_induction_on generalizing a b with
  | _ n ih =>
      by_cases ha : pattern <:+: a
      · obtain ⟨front, rest, rfl⟩ := ha
        have hpattern : 0 < pattern.length := List.length_pos_iff.2 hne
        have hshorter : front.length < n := by
          rw [← hn, List.length_append, List.length_append]
          omega
        obtain ⟨a, b', heq, ha⟩ := ih front.length hshorter front (rest ++ pattern ++ b) rfl
        exact ⟨a, b', by rw [← heq]; simp, ha⟩
      · exact ⟨a, b, rfl, ha⟩

/-- A pattern that does not occur cuts nothing. -/
theorem cutOn?_of_not_infix {pattern t : Text} (h : ¬ pattern <:+: t) :
    cutOn? pattern t = none := by
  cases hcut : cutOn? pattern t with
  | none => rfl
  | some cut =>
      obtain ⟨before, after⟩ := cut
      refine absurd ⟨before, after, ?_⟩ h
      rw [eq_of_cutOn? hcut, List.append_assoc]

/-- A pattern does not begin inside a text that lacks its first character. -/
theorem cutOn?_append_of_notMem {c : Char} {pattern before : Text} (hbefore : c ∉ before)
    (t : Text) :
    cutOn? (c :: pattern) (before ++ t) =
      (cutOn? (c :: pattern) t).map fun cut => (before ++ cut.1, cut.2) := by
  induction before with
  | nil => simp
  | cons d before ih =>
      obtain ⟨hd, hrest⟩ := List.ne_and_not_mem_of_not_mem_cons hbefore
      have hafter : after? (c :: pattern) (d :: (before ++ t)) = none := by
        rw [after?, if_neg (by simpa using hd)]
      rw [List.cons_append, cutOn?, hafter, ih hrest]
      simp [Option.map_map, Function.comp_def]

/-- A pattern is not found without its first character. -/
theorem cutOn?_of_notMem {c : Char} {t : Text} (ht : c ∉ t) (pattern : Text) :
    cutOn? (c :: pattern) t = none :=
  cutOn?_of_not_infix fun hoccurs => ht (hoccurs.subset List.mem_cons_self)

/-! ## Patterns around a character that they lack -/

section around

variable {pattern : Text} {d : Char} (hd : d ∉ pattern)

include hd

/-- A beginning does not reach over a character that it lacks. -/
theorem after?_append_cons (a b : Text) :
    after? pattern (a ++ d :: b) = (after? pattern a).map (· ++ d :: b) := by
  induction pattern generalizing a with
  | nil => rfl
  | cons c pattern ih =>
      obtain ⟨hc, hd⟩ := List.ne_and_not_mem_of_not_mem_cons hd
      cases a with
      | nil =>
          have hnone : after? (c :: pattern) (d :: b) = none := by
            rw [after?, if_neg (by simpa using Ne.symm hc)]
          rw [List.nil_append, hnone]
          rfl
      | cons e a =>
          rw [List.cons_append, after?, after?, ih hd]
          split_ifs <;> rfl

/-- A pattern is found in front of a character that it lacks or behind it. -/
theorem cutOn?_append_cons (hne : pattern ≠ []) (a b : Text) :
    cutOn? pattern (a ++ d :: b) =
      ((cutOn? pattern a).map fun cut => (cut.1, cut.2 ++ d :: b)).or
        ((cutOn? pattern b).map fun cut => (a ++ d :: cut.1, cut.2)) := by
  have hempty : after? pattern [] = none := by
    cases pattern with
    | nil => exact absurd rfl hne
    | cons c pattern => rfl
  induction a with
  | nil =>
      have hcut : cutOn? pattern [] = none := by simp [cutOn?, hne]
      have hafter := after?_append_cons hd [] b
      rw [hempty, Option.map_none, List.nil_append] at hafter
      rw [hcut, List.nil_append, cutOn?, hafter]
      rfl
  | cons c a ih =>
      have hafter := after?_append_cons hd (c :: a) b
      rw [List.cons_append] at hafter
      rw [List.cons_append, cutOn?, hafter, ih, cutOn?]
      cases after? pattern (c :: a) with
      | some rest => rfl
      | none =>
          cases cutOn? pattern a with
          | some cut => rfl
          | none => simp [Option.map_map, Function.comp_def]

/-- An ending does not reach back over a character that it lacks. -/
theorem endsWith_append_cons (a b : Text) :
    endsWith (a ++ d :: b) pattern = endsWith b pattern := by
  rw [Bool.eq_iff_iff, endsWith, endsWith, List.isSuffixOf_iff_suffix, List.isSuffixOf_iff_suffix]
  constructor
  · intro hends
    have hbehind : d :: b <:+ a ++ d :: b := List.suffix_append a (d :: b)
    rcases List.suffix_or_suffix_of_suffix hends hbehind with hshort | hlong
    · rcases List.suffix_cons_iff.1 hshort with rfl | hshort
      · exact absurd List.mem_cons_self hd
      · exact hshort
    · exact absurd (hlong.subset List.mem_cons_self) hd
  · intro hends
    exact hends.trans ((List.suffix_cons d b).trans (List.suffix_append a (d :: b)))

/-- A pattern does not reach over a character that it lacks. -/
theorem not_infix_append_cons {a b : Text} (ha : ¬ pattern <:+: a) (hb : ¬ pattern <:+: b) :
    ¬ pattern <:+: a ++ d :: b := by
  intro h
  rcases List.infix_append_iff.1 h with h | h | ⟨front, behind, rfl, hfront, hbehind⟩
  · exact ha h
  · rcases List.infix_cons_iff.1 h with h | h
    · rcases List.prefix_cons_iff.1 h with rfl | ⟨rest, rfl, -⟩
      · exact ha List.nil_infix
      · exact hd List.mem_cons_self
    · exact hb h
  · rcases List.prefix_cons_iff.1 hbehind with rfl | ⟨rest, rfl, -⟩
    · rw [List.append_nil] at ha
      exact ha hfront.isInfix
    · exact hd (by simp)

end around

/-- A pattern without blanks is found in a word or not at all. -/
theorem not_infix_of_words {pattern : Text} (hne : pattern ≠ [])
    (hpattern : ∀ c ∈ pattern, isBlank c = false) (t : Text)
    (h : ∀ word ∈ words t, ¬ pattern <:+: word) : ¬ pattern <:+: t := by
  induction hn : t.length using Nat.strong_induction_on generalizing t with
  | _ n ih =>
      by_cases hblank : ∃ c ∈ t, isBlank c = true
      · obtain ⟨c, hmem, hc⟩ := hblank
        obtain ⟨a, b, rfl⟩ := List.append_of_mem hmem
        rw [words_append_cons hc] at h
        rw [List.length_append, List.length_cons] at hn
        refine not_infix_append_cons ?_
          (ih a.length (by omega) a (fun w hw => h w (List.mem_append_left _ hw)) rfl)
          (ih b.length (by omega) b (fun w hw => h w (List.mem_append_right _ hw)) rfl)
        intro hc'
        rw [hpattern c hc'] at hc
        cases hc
      · have hplain : ∀ c ∈ t, isBlank c = false := by simpa using hblank
        rcases eq_or_ne t [] with rfl | hne'
        · exact fun hfound => hne (List.infix_nil.1 hfound)
        · rw [words_of_forall hne' hplain] at h
          exact h t (List.mem_singleton_self t)

end DeclAtlas.Text
