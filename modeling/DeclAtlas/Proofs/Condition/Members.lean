import Mathlib
import DeclAtlas.Condition.Directive

/-!
# Conditions look at members only

Symbols are kept in the order in which they were defined, but nothing depends on that order: two
sets of symbols with the same members give every condition the same truth value (`holds_congr`),
and every directive leads from states with the same members to states with the same members
(`Conditions.SameMembers.apply`).
-/

namespace DeclAtlas

namespace Symbols

/-- Symbols have the same members if they contain the same names. -/
theorem sameMembers_iff {a b : Symbols} :
    a.sameMembers b = true ↔ ∀ name, a.contains name = b.contains name := by
  simp only [sameMembers, contains, Bool.and_eq_true, List.all_eq_true, decide_eq_true_eq,
    decide_eq_decide]
  constructor
  · rintro ⟨hab, hba⟩ name
    exact ⟨hab name, hba name⟩
  · intro h
    exact ⟨fun name => (h name).1, fun name => (h name).2⟩

theorem sameMembers_refl (symbols : Symbols) : symbols.sameMembers symbols = true :=
  sameMembers_iff.2 fun _ => rfl

/-- A definition adds the trimmed name, if there is anything left of it. -/
theorem contains_define (symbols : Symbols) (name other : Text) :
    (symbols.define name).contains other =
      (symbols.contains other || (!(Text.trim name).isEmpty && other == Text.trim name)) := by
  unfold define
  extract_lets trimmed
  by_cases hempty : trimmed.isEmpty = true
  · rw [hempty, Bool.true_or, if_pos rfl, Bool.not_true, Bool.false_and, Bool.or_false]
  · rw [Bool.not_eq_true] at hempty
    rw [hempty, Bool.false_or, Bool.not_false, Bool.true_and]
    by_cases hdefined : symbols.contains trimmed = true
    · rw [if_pos hdefined]
      by_cases hother : other = trimmed
      · rw [hother, hdefined, Bool.true_or]
      · rw [beq_eq_false_iff_ne.2 hother, Bool.or_false]
    · rw [if_neg hdefined, Bool.eq_iff_iff]
      simp [contains, trimmed]

/-- Undefining a name takes away the trimmed name. -/
theorem contains_undefine (symbols : Symbols) (name other : Text) :
    (symbols.undefine name).contains other =
      (symbols.contains other && other != Text.trim name) := by
  rw [Bool.eq_iff_iff]
  simp [contains, undefine]

end Symbols

namespace Condition

variable {a b : Symbols} (h : ∀ name, a.contains name = b.contains name)

include h

/-- Only the members matter for whether a word holds. -/
theorem wordHolds_congr (word : Text) : wordHolds a word = wordHolds b word := by
  rw [wordHolds, wordHolds, h]

/-- Only the members matter for how words are combined. -/
theorem combineAll_congr (value : Bool) (words : List Text) :
    combineAll a value words = combineAll b value words := by
  fun_induction combineAll a value words with
  | case1 value => rw [combineAll]
  | case2 value operator => rw [combineAll]
  | case3 value operator operand rest ih => rw [combineAll, ih, wordHolds_congr h]

/-- Only the members matter for a condition without groups. -/
theorem flatHolds_congr (t : Text) : flatHolds a t = flatHolds b t := by
  unfold flatHolds
  cases words t with
  | nil => rfl
  | cons first rest => rw [wordsHold, wordsHold, wordHolds_congr h, combineAll_congr h]

/-- Only the members matter for how groups are resolved. -/
theorem resolveGroups_congr (t : Text) : resolveGroups a t = resolveGroups b t := by
  induction t with
  | nil => rfl
  | cons c rest ih => simp only [resolveGroups, closeGroup, ih, flatHolds_congr h]

/-- **Conditions look at members only.** -/
theorem holds_congr (t : Text) : holds a t = holds b t := by
  rw [holds, holds, resolveGroups_congr h, flatHolds_congr h]

end Condition

namespace Conditions

/-- The same groups are open and the same symbols are defined, in whatever order. -/
structure SameMembers (a b : Conditions) : Prop where
  /-- The same groups are open. -/
  groups : a.groups = b.groups
  /-- The same symbols are defined. -/
  symbols : ∀ name, a.symbols.contains name = b.symbols.contains name

/-- Whether text is left out does not depend on the symbols. -/
theorem SameMembers.isSkipping {a b : Conditions} (h : a.SameMembers b) :
    a.isSkipping = b.isSkipping := by
  rw [Conditions.isSkipping, Conditions.isSkipping, h.groups]

/-- A directive keeps the members the same. -/
theorem SameMembers.apply {a b : Conditions} (h : a.SameMembers b) (directive : Directive) :
    (a.apply directive).SameMembers (b.apply directive) := by
  have hholds := fun condition => Condition.holds_congr h.symbols condition
  cases directive with
  | define name =>
      simp only [Conditions.apply, h.isSkipping]
      split
      · exact h
      · refine ⟨h.groups, fun other => ?_⟩
        rw [Symbols.contains_define, Symbols.contains_define, h.symbols]
  | undefine name =>
      simp only [Conditions.apply, h.isSkipping]
      split
      · exact h
      · refine ⟨h.groups, fun other => ?_⟩
        rw [Symbols.contains_undefine, Symbols.contains_undefine, h.symbols]
  | openIf condition =>
      refine ⟨?_, h.symbols⟩
      simp only [Conditions.apply, h.isSkipping, h.groups, hholds]
  | elseIf condition =>
      refine ⟨?_, h.symbols⟩
      simp only [Conditions.apply, h.groups, hholds]
  | otherwise => exact ⟨congrArg ConditionalGroups.otherwise h.groups, h.symbols⟩
  | endIf => exact ⟨congrArg ConditionalGroups.close h.groups, h.symbols⟩
  | other => exact h

end Conditions

end DeclAtlas
