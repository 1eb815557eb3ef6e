import Mathlib
import DeclAtlas.Element.DisplayName
import DeclAtlas.Proofs.Text.Words

/-!
# Names that have a display name

A name has no display name only if the last blank of one of its parameters is wider than one byte.
So every name whose blanks are all spaces has one (`ofName?_isSome`).
-/

namespace DeclAtlas.DisplayName

open Text

/-- All blanks of the text are spaces. -/
def Spaced (t : Text) : Prop :=
  ∀ c ∈ t, isBlank c = true → c = ' '

/-- A text with no other characters than a spaced one is spaced. -/
theorem Spaced.mono {t u : Text} (ht : Spaced t) (h : ∀ c ∈ u, c ∈ t) : Spaced u :=
  fun c hc => ht c (h c hc)

/-- The characters of a parameter are characters of the parameter list. -/
theorem mem_of_mem_parametersFrom {depth : Nat} {t parameter : Text}
    (hparameter : parameter ∈ parametersFrom depth t) {c : Char} (hc : c ∈ parameter) : c ∈ t := by
  induction t generalizing depth parameter with
  | nil =>
      rw [parametersFrom, List.mem_singleton] at hparameter
      exact hparameter ▸ hc
  | cons d t ih =>
      rw [parametersFrom] at hparameter
      split at hparameter
      · rcases List.mem_cons.1 hparameter with rfl | hparameter
        · exact absurd hc List.not_mem_nil
        · exact List.mem_cons_of_mem d (ih hparameter hc)
      · extract_lets depth' at hparameter
        split at hparameter
        · rw [List.mem_singleton] at hparameter
          rw [hparameter, List.mem_singleton] at hc
          exact hc ▸ List.mem_cons_self
        · rename_i front parameters heq
          rcases List.mem_cons.1 hparameter with rfl | hparameter
          · rcases List.mem_cons.1 hc with rfl | hc
            · exact List.mem_cons_self
            · exact List.mem_cons_of_mem d (ih (heq ▸ List.mem_cons_self) hc)
          · exact List.mem_cons_of_mem d (ih (heq ▸ List.mem_cons_of_mem front hparameter) hc)

/-- Cutting the default value off adds no character. -/
theorem mem_of_mem_withoutDefault {parameter : Text} {c : Char}
    (h : c ∈ withoutDefault parameter) : c ∈ parameter := by
  have h := mem_of_mem_trim h
  rcases hcut : cutAt? '=' parameter with _ | ⟨before, after⟩
  · rw [hcut] at h
    exact h
  · rw [hcut] at h
    obtain ⟨_, -, heq, -⟩ := eq_of_cutWhere? hcut
    rw [heq]
    exact List.mem_append_left _ h

/-- The name of a spaced parameter can be cut off. -/
theorem withoutName?_isSome {parameter : Text} (h : Spaced parameter) :
    (withoutName? parameter).isSome := by
  have hlast : ((lastBlank? parameter).any fun blank => 1 < blank.utf8Size) = false := by
    rcases hblank : lastBlank? parameter with _ | blank
    · rfl
    · have hmem : blank ∈ parameter := List.mem_reverse.1 (List.mem_of_find?_eq_some hblank)
      have hspace : blank = ' ' := h blank hmem (List.find?_some hblank)
      subst hspace
      decide
  unfold withoutName?
  rw [hlast]
  rcases cutWhereLast? isBlank parameter with _ | ⟨front, last⟩ <;> rfl

/-- A step that succeeds for every item succeeds for the list. -/
theorem mapM_isSome {α β : Type} {f : α → Option β} {xs : List α}
    (h : ∀ x ∈ xs, (f x).isSome) : (xs.mapM f).isSome := by
  induction xs with
  | nil => rfl
  | cons x xs ih =>
      obtain ⟨y, hy⟩ := Option.isSome_iff_exists.1 (h x List.mem_cons_self)
      obtain ⟨ys, hys⟩ :=
        Option.isSome_iff_exists.1 (ih fun z hz => h z (List.mem_cons_of_mem x hz))
      simp [List.mapM_cons, hy, hys]

/-- A name whose blanks are all spaces has a display name. -/
theorem ofName?_isSome {name : Text} (h : Spaced name) : (ofName? name).isSome := by
  unfold ofName?
  rcases cutAt? '(' name with _ | ⟨front, _⟩
  · rfl
  rcases hcut : cutAtLast? ')' name with _ | ⟨body, rest⟩
  · rfl
  simp only
  split
  · rfl
  obtain ⟨⟨after, before⟩, hreverse, heq⟩ := Option.map_eq_some_iff.1 hcut
  obtain ⟨_, -, hname, -⟩ := eq_of_cutWhere? hreverse
  simp only [Prod.mk.injEq] at heq
  obtain ⟨rfl, rfl⟩ := heq
  have hbody : Spaced (before.reverse.drop (front.length + 1)) := by
    refine h.mono fun c hc => ?_
    rw [← List.mem_reverse, hname]
    exact List.mem_append_right _
      (List.mem_cons_of_mem _ (List.mem_reverse.1 (List.mem_of_mem_drop hc)))
  have htypes :
      ((parameters (before.reverse.drop (front.length + 1))).mapM parameterType?).isSome := by
    refine mapM_isSome fun parameter hparameter => withoutName?_isSome ?_
    exact (hbody.mono fun c hc => mem_of_mem_parametersFrom hparameter hc).mono
      fun c hc => mem_of_mem_withoutDefault hc
  obtain ⟨types, htypes⟩ := Option.isSome_iff_exists.1 htypes
  rw [htypes]
  rfl

end DeclAtlas.DisplayName
