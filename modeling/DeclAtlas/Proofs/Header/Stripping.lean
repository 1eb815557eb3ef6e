import Mathlib
import DeclAtlas.Proofs.Header.Comment

/-!
# Headers without comments

Comments are removed in one pass over a header, with a look at the last character kept.  The usual
description is another one: as long as a comment opens somewhere, the first one is taken out,
together with all that follows if it is not closed.  Its steps are the equations of
`RemovesComments`, which have one solution (`RemovesComments.eq`).

* **Theorem** (`stripComments_exact`): the pass is that solution.  What it leaves opens no comment,
  has no blanks around it, holds characters of the header in their order and is left as it is by
  another pass.
-/

namespace DeclAtlas.Header

open Text

/-! ## Taking out the first comment -/

/-- Comments are removed from the first one on, and then the blanks around what is left. -/
structure RemovesComments (f : Text → Text) : Prop where
  /-- Where no comment opens, only blanks are removed. -/
  unopened : ∀ a, ¬ ['/', '*'] <:+: a → f a = trim a
  /-- A comment that is not closed reaches to the end. -/
  unclosed : ∀ a c, ¬ ['/', '*'] <:+: a → ¬ ['*', '/'] <:+: c → f (a ++ ['/', '*'] ++ c) = trim a
  /-- A comment that is closed leaves what stands in front of it and behind it. -/
  closed : ∀ a c b, ¬ ['/', '*'] <:+: a → ¬ ['*', '/'] <:+: c →
    f (a ++ ['/', '*'] ++ c ++ ['*', '/'] ++ b) = f (a ++ b)

/-- What the removal of the first comment says about a function says all about it. -/
theorem RemovesComments.eq {f g : Text → Text} (hf : RemovesComments f) (hg : RemovesComments g)
    (t : Text) : f t = g t := by
  induction hn : t.length using Nat.strong_induction_on generalizing t with
  | _ n ih =>
      by_cases hopens : ['/', '*'] <:+: t
      · obtain ⟨a, rest, rfl, ha⟩ := exists_first_infix (List.cons_ne_nil _ _) hopens
        by_cases hcloses : ['*', '/'] <:+: rest
        · obtain ⟨c, b, rfl, hc⟩ := exists_first_infix (List.cons_ne_nil _ _) hcloses
          have hshorter : (a ++ b).length < n := by
            rw [← hn]
            simp only [List.length_append, List.length_cons]
            omega
          have hrest := ih (a ++ b).length hshorter (a ++ b) rfl
          rw [← List.append_assoc, ← List.append_assoc, hf.closed a c b ha hc,
            hg.closed a c b ha hc, hrest]
        · rw [hf.unclosed a rest ha hcloses, hg.unclosed a rest ha hcloses]
      · rw [hf.unopened t hopens, hg.unopened t hopens]

/-! ## The pass over a header -/

/-- A comment opens behind a text, whether or not this ends with a slash. -/
theorem dropComments_opening (kept t : Text) :
    dropComments kept false ('/' :: '*' :: t) = dropComments kept true t := by
  rw [dropComments_keep fun _ => by decide, dropComments]

/-- A comment ends where it is closed for the first time. -/
theorem dropComments_closing (kept : Text) {c : Text} (hc : ¬ ['*', '/'] <:+: c) (t : Text) :
    dropComments kept true (c ++ '*' :: '/' :: t) = dropComments kept false t := by
  rw [dropComments_inside kept hc (by decide), dropComments]

/-- A comment that is not closed reaches to the end. -/
theorem dropComments_open (kept : Text) {c : Text} (hc : ¬ ['*', '/'] <:+: c) :
    dropComments kept true c = kept.reverse := by
  have hdrop : dropComments kept true (c ++ []) = dropComments kept true [] :=
    dropComments_unclosed kept hc (by simp)
  rwa [List.append_nil, dropComments] at hdrop

/-- Stripping removes comments, closed or not, and nothing else. -/
theorem removesComments_stripComments : RemovesComments stripComments where
  unopened a ha := by rw [stripComments, dropComments_self ha]
  unclosed a c ha hc := by
    have hdrop : dropComments [] false (a ++ ['/', '*'] ++ c) = a := by
      rw [List.append_assoc, dropComments_start ha]
      exact (dropComments_opening _ c).trans
        ((dropComments_open _ hc).trans (List.reverse_reverse a))
    rw [stripComments, hdrop]
  closed a c b ha hc := by
    have hdrop : dropComments [] false (a ++ ['/', '*'] ++ c ++ ['*', '/'] ++ b) =
        dropComments [] false (a ++ b) := by
      rw [List.append_assoc, List.append_assoc, List.append_assoc, dropComments_start ha,
        dropComments_start ha]
      exact (dropComments_opening _ _).trans (dropComments_closing _ hc b)
    rw [stripComments, hdrop, stripComments]

/-! ## What is left -/

/-- Only what was kept or comes is left. -/
theorem dropComments_sublist (kept : Text) (inside : Bool) (t : Text) :
    (dropComments kept inside t).Sublist (kept.reverse ++ t) := by
  fun_induction dropComments kept inside t with
  | case1 kept inside => rw [List.append_nil]
  | case2 kept rest ih =>
      exact ih.trans ((((List.Sublist.refl rest).cons '/').cons '*').append_left _)
  | case3 kept c rest hopen ih => exact ih.trans (((List.Sublist.refl rest).cons c).append_left _)
  | case4 kept rest ih =>
      rw [List.reverse_cons, List.append_assoc]
      exact ih.trans ((((List.Sublist.refl rest).cons '*').cons '/').append_left _)
  | case5 kept c rest hkeep ih =>
      rwa [List.reverse_cons, List.append_assoc, List.singleton_append] at ih

/-- A character is kept only if no comment opens with it, so none opens in what is left. -/
theorem not_infix_dropComments {kept : Text} (hkept : ¬ ['/', '*'] <:+: kept.reverse)
    (inside : Bool) (t : Text) : ¬ ['/', '*'] <:+: dropComments kept inside t := by
  fun_induction dropComments kept inside t with
  | case1 kept inside => exact hkept
  | case2 kept rest ih => exact ih hkept
  | case3 kept c rest hopen ih => exact ih hkept
  | case4 kept rest ih =>
      rw [List.reverse_cons] at hkept
      exact ih fun h => hkept (h.trans (List.prefix_append _ _).isInfix)
  | case5 kept c rest hkeep ih =>
      refine ih fun h => ?_
      rw [List.reverse_cons] at h
      rcases List.infix_concat_iff.1 h with ⟨front, heq⟩ | h
      · have hends : front ++ ['/'] ++ ['*'] = kept.reverse ++ [c] := by simpa using heq
        obtain ⟨hfront, hc⟩ := List.append_inj' hends rfl
        obtain rfl : '*' = c := List.singleton_inj.1 hc
        refine hkeep front.reverse ?_ rfl
        rw [← List.reverse_reverse kept, ← hfront, List.reverse_concat]
      · exact hkept h

/-- No comment opens in a stripped text. -/
theorem not_infix_stripComments (t : Text) : ¬ ['/', '*'] <:+: stripComments t := by
  have hdropped : ¬ ['/', '*'] <:+: dropComments [] false t :=
    not_infix_dropComments (by decide) false t
  exact fun h => hdropped (h.trans (trim_infix_self _))

/-- **Theorem.** Comments are removed by taking out the first one as long as there is one, and this
says all about the removal.  What is left opens no comment, begins and ends with characters that are
not blank, holds characters of the text in their order and stays as it is when comments are removed
from it. -/
theorem stripComments_exact :
    RemovesComments stripComments ∧ (∀ f, RemovesComments f → f = stripComments) ∧
      ∀ t, ¬ ['/', '*'] <:+: stripComments t ∧
        (∀ c ∈ (stripComments t).head?, isBlank c = false) ∧
        (∀ c ∈ (stripComments t).getLast?, isBlank c = false) ∧
        (stripComments t).Sublist t ∧ stripComments (stripComments t) = stripComments t := by
  refine ⟨removesComments_stripComments, fun f hf => funext (hf.eq removesComments_stripComments),
    fun t => ?_⟩
  have hhead : ∀ c ∈ (stripComments t).head?, isBlank c = false := fun _ => isBlank_of_head?_trim
  have hlast : ∀ c ∈ (stripComments t).getLast?, isBlank c = false :=
    fun _ => isBlank_of_getLast?_trim
  refine ⟨not_infix_stripComments t, hhead, hlast, ?_, ?_⟩
  · exact (trim_infix_self _).sublist.trans (dropComments_sublist [] false t)
  · rw [removesComments_stripComments.unopened _ (not_infix_stripComments t)]
    exact trim_of_ends hhead hlast

/-- The first comment leaves a slash and a star together, which open another one. -/
theorem stripComments_exact_joined :
    ¬ ['/', '*'] <:+: "x /".toList ∧ ¬ ['*', '/'] <:+: "1*".toList ∧
      stripComments "x //*1**/*2*/ y/ " = "x  y/".toList := by
  have hfront : ¬ ['/', '*'] <:+: "x /".toList := by decide
  have hinside : ¬ ['*', '/'] <:+: "1*".toList := by decide
  have hfirst := stripComments_exact.1.closed _ _ "*2*/ y/ " hfront hinside
  have hsecond := stripComments_exact.1.closed "x " "2" " y/ " (by decide) (by decide)
  have hrest := stripComments_exact.1.unopened "x  y/ " (by decide)
  exact ⟨hfront, hinside, hfirst.trans (hsecond.trans hrest)⟩

end DeclAtlas.Header
