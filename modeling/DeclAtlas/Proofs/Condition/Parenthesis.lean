import Mathlib
import DeclAtlas.Proofs.Condition.DirectiveLine

/-!
# Conditions in parentheses

The condition of an `#if` or `#elif` may stand in parentheses, and within a condition no blank is
needed around them.  In front of them one is: the name of a directive reaches to the first blank, so
`#if(A)` names a directive `if(A)`, and this one is passed over.

* `ofLine_of_unspaced`: without a blank in front of its parenthesis a directive is passed over.
* `ofLine_of_spaced`: with blanks the condition is found, however many and whichever they are.
* **Theorem** (`Conditions.apply_parenthesized`): an `#if` without the blank never does what it does
  with the blank, and an `#elif` does it only where this changes nothing.
-/

namespace DeclAtlas

namespace Directive

open Text

/-- A condition in parentheses. -/
def group (condition : Text) : Text :=
  '(' :: (condition ++ [')'])

/-- The directive line with a condition in parentheses and these blanks in front of them. -/
def parenthesized (name blanks condition : Text) : Text :=
  '#' :: (name ++ (blanks ++ group condition))

section parenthesized

variable {name blanks condition : Text} (hname : IsName name)
  (hblanks : ∀ c ∈ blanks, isBlank c = true) (hcomment : ¬ "//".toList <:+: condition)

/-- A group at the end is not trimmed. -/
theorem trimEnd_append_group (front condition : Text) :
    trimEnd (front ++ group condition) = front ++ group condition :=
  trimEnd_append_self (trimEnd_of_last (by decide) ('(' :: condition)) (List.cons_ne_nil _ _) front

/-- A group is not trimmed. -/
theorem trim_group (condition : Text) : trim (group condition) = group condition := by
  rw [trim, group, trimStart_of_head (by decide)]
  exact trimEnd_append_group [] condition

include hcomment in
/-- No comment opens in front of a group or in it. -/
theorem not_infix_append_group {front : Text} (hfront : ¬ "//".toList <:+: front) :
    ¬ "//".toList <:+: front ++ group condition := by
  have hclosed : ¬ "//".toList <:+: condition ++ [')'] :=
    not_infix_append_cons (by decide) hcomment (by decide)
  exact not_infix_append_cons (by decide) hfront hclosed

include hname hblanks hcomment

/-- Neither trimming nor the search for a comment changes the line. -/
theorem body_parenthesized :
    body (parenthesized name blanks condition) = name ++ (blanks ++ group condition) := by
  have hslash : '/' ∉ blanks := fun hmem => absurd (hblanks '/' hmem) (by decide)
  have hfree : ¬ "//".toList <:+: blanks ++ group condition :=
    not_infix_append_group hcomment fun h => hslash (h.subset List.mem_cons_self)
  have hend := trimEnd_append_group blanks condition
  rw [parenthesized, body_of_uncommented hname (hend.symm ▸ hfree), hend]

omit hblanks in
/-- Without a blank in front of its parenthesis a directive is passed over. -/
theorem ofLine_of_unspaced : ofLine (parenthesized name [] condition) = .other := by
  have hbody := body_parenthesized hname (List.forall_mem_nil _) hcomment
  have hfront : ∀ c ∈ name ++ ['('], isBlank c = false := by
    intro c hc
    rcases List.mem_append.1 hc with hc | hc
    · exact (hname.plain c hc).1
    · rw [List.mem_singleton.1 hc]
      decide
  rw [List.nil_append, group, ← List.singleton_append, ← List.append_assoc] at hbody
  have hcut := cutName_append hfront (condition ++ [')'])
  rw [← hbody] at hcut
  -- No directive has a parenthesis in its name.
  refine ofLine_of_notMem_keywords hcut fun hmem => ?_
  have hkeywords : keywords.all (fun keyword => !keyword.contains '(') = true := by decide
  have hfree := List.all_eq_true.1 hkeywords _ hmem
  simp at hfree

/-- With blanks in front of the group the name ends at the first of them. -/
theorem cutName_spaced (hne : blanks ≠ []) :
    cutName (body (parenthesized name blanks condition)) =
      (name, blanks.tail ++ group condition) := by
  obtain ⟨c, rest, rfl⟩ := List.exists_cons_of_ne_nil hne
  rw [body_parenthesized hname hblanks hcomment, List.cons_append,
    cutName_cons hname (hblanks c List.mem_cons_self), List.tail_cons]

/-- With blanks in front of its parenthesis a directive is what it is with one space there. -/
theorem ofLine_of_spaced (hne : blanks ≠ []) :
    ofLine (parenthesized name blanks condition) = ofLine (line name (group condition)) := by
  have hspace : ∀ c ∈ [' '], isBlank c = true := List.forall_mem_singleton.2 (by decide)
  have hline : line name (group condition) = parenthesized name [' '] condition := rfl
  rw [hline]
  apply ofLine_congr
  · exact cutName_spaced hname hblanks hcomment hne
  · exact cutName_spaced hname hspace hcomment (List.cons_ne_nil _ _)
  · rw [trim, trimStart_blanks_append fun c hc => hblanks c (List.mem_of_mem_tail hc), trim,
      List.tail_cons, List.nil_append]

end parenthesized

end Directive

namespace Conditions

open Directive

/-- A directive that opens a group has an effect. -/
theorem apply_openIf_ne (conditions : Conditions) (condition : Text) :
    conditions.apply (.openIf condition) ≠ conditions := by
  intro h
  have hdepth := congrArg (fun conditions => conditions.groups.depth) h
  exact absurd hdepth (Nat.succ_ne_self _)

/-- A directive that starts another branch has no effect exactly if the condition leaves the
innermost group as it is. -/
theorem apply_elseIf_eq_iff (conditions : Conditions) (condition : Text) :
    conditions.apply (.elseIf condition) = conditions ↔
      ∀ g ∈ conditions.groups.stack.head?,
        g.active = (g.outerActive && Condition.holds conditions.symbols condition) ∧
          (Condition.holds conditions.symbols condition = true → g.taken = true) := by
  obtain ⟨symbols, ⟨stack⟩⟩ := conditions
  cases stack with
  | nil => exact iff_of_true rfl (fun _ hmem => absurd hmem (Option.not_mem_none _))
  | cons g outer =>
      obtain ⟨outerActive, taken, active⟩ := g
      rw [apply, ConditionalGroups.elseIf]
      simp only [mk.injEq, ConditionalGroups.mk.injEq, List.cons.injEq, ConditionalGroup.mk.injEq,
        true_and, and_true, List.head?_cons, Option.mem_def, Option.some.injEq, forall_eq',
        Bool.or_eq_left_iff_imp]
      rw [and_comm, @eq_comm _ active]

/-- **Theorem.** Without a blank in front of the parenthesis, `#if` and `#elif` have no effect.  So
an `#if` has the effect that it has with one space exactly if a blank stands there, and an `#elif`
has it exactly then or where the condition leaves the innermost group as it is. -/
theorem apply_parenthesized (conditions : Conditions) {blanks condition : Text}
    (hblanks : ∀ c ∈ blanks, Text.isBlank c = true) (hcomment : ¬ "//".toList <:+: condition) :
    conditions.apply (ofLine (parenthesized "if" [] condition)) = conditions ∧
      conditions.apply (ofLine (parenthesized "elif" [] condition)) = conditions ∧
      (conditions.apply (ofLine (parenthesized "if" blanks condition)) =
          conditions.apply (ofLine (line "if" (group condition))) ↔ blanks ≠ []) ∧
      (conditions.apply (ofLine (parenthesized "elif" blanks condition)) =
          conditions.apply (ofLine (line "elif" (group condition))) ↔
        blanks ≠ [] ∨ ∀ g ∈ conditions.groups.stack.head?,
          g.active = (g.outerActive && Condition.holds conditions.symbols (group condition)) ∧
            (Condition.holds conditions.symbols (group condition) = true → g.taken = true)) := by
  have hifName : IsName "if".toList := isName_of_all (by decide) (by decide)
  have helifName : IsName "elif".toList := isName_of_all (by decide) (by decide)
  have hif := ofLine_of_unspaced hifName hcomment
  have helif := ofLine_of_unspaced helifName hcomment
  refine ⟨by rw [hif]; rfl, by rw [helif]; rfl, ?_⟩
  rcases eq_or_ne blanks [] with rfl | hne
  · have htrim := trim_group condition
    have hfree : ¬ "//".toList <:+: [] ++ group condition :=
      not_infix_append_group hcomment (by decide)
    rw [hif, helif, ofLine_openIf htrim hfree, ofLine_elseIf htrim hfree, ← apply_elseIf_eq_iff]
    refine ⟨iff_of_false (Ne.symm (apply_openIf_ne conditions _)) (fun h => h rfl), ?_⟩
    exact ⟨fun h => Or.inr h.symm, fun h => (h.resolve_left fun h => h rfl).symm⟩
  · rw [ofLine_of_spaced hifName hblanks hcomment hne,
      ofLine_of_spaced helifName hblanks hcomment hne]
    exact ⟨iff_of_true rfl hne, iff_of_true rfl (Or.inl hne)⟩

/-- In a group whose condition has failed, with one symbol defined. -/
def afterFailedIf : Conditions :=
  { symbols := { names := ["A"] }
    groups := { stack := [{ outerActive := true, taken := false, active := false }] } }

/-- Two blanks in front of a condition whose parentheses do not match. -/
theorem apply_parenthesized_unmatched :
    (∀ c ∈ ['\t', ' '], Text.isBlank c = true) ∧ ¬ "//".toList <:+: "(A / B".toList ∧
      afterFailedIf.apply (ofLine (parenthesized "elif" ['\t', ' '] "(A / B")) =
        afterFailedIf.apply (ofLine (line "elif" (group "(A / B"))) := by
  have hblanks : ∀ c ∈ ['\t', ' '], Text.isBlank c = true := List.all_eq_true.1 (by decide)
  have hcomment : ¬ "//".toList <:+: "(A / B".toList := by decide
  have happly := apply_parenthesized afterFailedIf hblanks hcomment
  exact ⟨hblanks, hcomment, happly.2.2.2.2 (Or.inl (List.cons_ne_nil _ _))⟩

/-- Without the blank, a group with a condition that fails is not opened, and a branch whose
condition holds is not started. -/
theorem apply_unspaced_ne :
    ({} : Conditions).apply (ofLine "#if(A)") ≠ ({} : Conditions).apply (ofLine "#if (A)") ∧
      afterFailedIf.apply (ofLine "#elif(A)") ≠ afterFailedIf.apply (ofLine "#elif (A)") := by
  decide

end Conditions

end DeclAtlas
