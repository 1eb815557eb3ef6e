import Mathlib
import DeclAtlas.Proofs.Condition.Grammar

/-!
# Conditions are monotone

Conditions know no negation, so further symbols never make a condition false.

**Theorem** (`holds_mono`): a condition that holds for some symbols holds for all larger sets of
symbols.  The text of the condition may be anything at all.

A text without grammar leaves only the evaluator to follow, and the two evaluations part ways at the
first group: one writes `false` where the other writes `true`, and from there on they work on
different texts.  `Rises` relates such texts.  Both are cut at the same parenthesis
(`Rises.cutGroup`) and give equally many words, each of the first text leading to one of the second
that can only be truer (`Rises.wordsFrom`).  Where such a word stands in the place of an operator,
neither `true` nor `false` is `&&`, so both read as `||` (`combine_mono`).
-/

namespace DeclAtlas.Condition

/-! ## Words that can only be truer -/

/-- The second word is the first one, or it is `true` in the place of `false`. -/
inductive Lifts : Text → Text → Prop
  | same (word : Text) : Lifts word word
  | literal : Lifts (literal false) (literal true)

/-- A larger truth value lifts the word for the smaller one. -/
theorem lifts_literal {v w : Bool} (h : v ≤ w) : Lifts (literal v) (literal w) := by
  cases v with
  | false =>
      cases w with
      | false => exact .same _
      | true => exact .literal
  | true =>
      obtain rfl : w = true := top_le_iff.1 h
      exact .same _

theorem forall₂_lifts_refl (words : List Text) : List.Forall₂ Lifts words words :=
  List.forall₂_same.2 fun word _ => .same word

/-- Every other word between two operands is taken for an or. -/
theorem combine_of_ne {operator : Text} (h : operator ≠ "&&".toList) (left right : Bool) :
    combine operator left right = (left || right) :=
  if_neg h

/-- Both operators are monotone, and a word that is lifted is no conjunction on either side. -/
theorem combine_mono {operator operator' : Text} (hoperator : Lifts operator operator')
    {left left' right right' : Bool} (hleft : left ≤ left') (hright : right ≤ right') :
    combine operator left right ≤ combine operator' left' right' := by
  cases hoperator with
  | same =>
      unfold combine
      split_ifs
      · exact inf_le_inf hleft hright
      · exact sup_le_sup hleft hright
  | literal =>
      rw [combine_of_ne (by decide), combine_of_ne (by decide)]
      exact sup_le_sup hleft hright

section symbols

variable {a b : Symbols} (hab : ∀ name, a.contains name = true → b.contains name = true)

include hab

/-- A lifted word holds with more symbols if the word held. -/
theorem wordHolds_mono {v w : Text} (h : Lifts v w) : wordHolds a v ≤ wordHolds b w := by
  cases h with
  | same => exact sup_le_sup le_rfl (Bool.le_iff_imp.2 (hab v))
  | literal => exact le_top

/-- Lifted words combine to no smaller value with more symbols. -/
theorem combineAll_mono {value value' : Bool} (hvalue : value ≤ value') {v w : List Text}
    (h : List.Forall₂ Lifts v w) : combineAll a value v ≤ combineAll b value' w := by
  fun_induction combineAll a value v generalizing value' w with
  | case1 value =>
      cases h
      exact hvalue
  | case2 value operator =>
      cases h with
      | cons hoperator hnil =>
          cases hnil
          exact combine_mono hoperator hvalue le_rfl
  | case3 value operator operand rest ih =>
      cases h with
      | cons hoperator h =>
          cases h with
          | cons hoperand hrest =>
              exact ih (combine_mono hoperator hvalue (wordHolds_mono hab hoperand)) hrest

/-- Lifted words hold with more symbols if the words held. -/
theorem wordsHold_mono {v w : List Text} (h : List.Forall₂ Lifts v w) :
    wordsHold a v ≤ wordsHold b w := by
  cases h with
  | nil => exact le_rfl
  | cons hfirst hrest => exact combineAll_mono hab (wordHolds_mono hab hfirst) hrest

end symbols

/-! ## Texts that can only be truer -/

/-- The second text is the first one with `true` in the place of some words `false` that stand
between spaces. -/
inductive Rises : Text → Text → Prop
  | nil : Rises [] []
  | char (c : Char) {t u : Text} (h : Rises t u) : Rises (c :: t) (c :: u)
  | literal {v w : Bool} (hvw : v ≤ w) {t u : Text} (h : Rises t u) :
      Rises (' ' :: (literal v ++ ' ' :: t)) (' ' :: (literal w ++ ' ' :: u))

/-- A risen text starts with the same character. -/
theorem Rises.head? {t u : Text} (h : Rises t u) : t.head? = u.head? := by
  cases h <;> rfl

/-- Two characters that make an operator. -/
theorem wordsFrom_double {c : Char} (hc : c = '&' ∨ c = '|') (word t : Text) :
    wordsFrom word (c :: c :: t) = pendingWord word ++ [c, c] :: wordsFrom [] t := by
  rcases hc with rfl | rfl
  · exact wordsFrom.eq_2 word t
  · exact wordsFrom.eq_3 word t

/-- A character that makes no operator with the next one. -/
theorem wordsFrom_cons {c : Char} {t : Text} (h : ¬ ((c = '&' ∨ c = '|') ∧ t.head? = some c))
    (word : Text) :
    wordsFrom word (c :: t) =
      if isSeparator c || c == ')' then pendingWord word ++ wordsFrom [] t
      else wordsFrom (word ++ [c]) t := by
  apply wordsFrom.eq_4
  · rintro rest rfl rfl
    exact h ⟨.inl rfl, rfl⟩
  · rintro rest rfl rfl
    exact h ⟨.inr rfl, rfl⟩

/-- A truth value between spaces is a word of its own. -/
theorem wordsFrom_literal (value : Bool) (word t : Text) :
    wordsFrom word (' ' :: (literal value ++ ' ' :: t)) =
      pendingWord word ++ literal value :: wordsFrom [] t := by
  rw [wordsFrom_cons_of_isSeparator (by decide),
    wordsFrom_append (fun c hc => isWordChar_of_mem_literal hc), List.nil_append,
    wordsFrom_cons_of_isSeparator (by decide), pendingWord_of_ne_nil (literal_ne_nil value),
    List.singleton_append]

/-- The words of a risen text lift those of the text. -/
theorem Rises.wordsFrom {t u : Text} (h : Rises t u) (word : Text) :
    List.Forall₂ Lifts (wordsFrom word t) (wordsFrom word u) := by
  -- an operator takes two characters, hence the induction on the length
  induction hn : t.length using Nat.strong_induction_on generalizing t u word with
  | _ n ih =>
      subst hn
      have hpending := forall₂_lifts_refl (pendingWord word)
      cases h with
      | nil => exact forall₂_lifts_refl _
      | @literal v w hvw t u htail =>
          have hlt : t.length < (' ' :: (Condition.literal v ++ ' ' :: t)).length := by
            simp only [List.length_cons, List.length_append]
            omega
          rw [wordsFrom_literal, wordsFrom_literal]
          exact List.rel_append hpending (.cons (lifts_literal hvw) (ih _ hlt htail [] rfl))
      | @char c t u htail =>
          by_cases hdouble : (c = '&' ∨ c = '|') ∧ t.head? = some c
          · obtain ⟨hc, hhead⟩ := hdouble
            cases htail with
            | nil => cases hhead
            | literal =>
                obtain rfl : ' ' = c := Option.some.inj hhead
                exact absurd hc (by decide)
            | @char d t u htail =>
                obtain rfl : d = c := Option.some.inj hhead
                have hlt : t.length < (d :: d :: t).length := by
                  simp only [List.length_cons]
                  omega
                rw [wordsFrom_double hc, wordsFrom_double hc]
                exact List.rel_append hpending (.cons (.same _) (ih _ hlt htail [] rfl))
          · have hlt : t.length < (c :: t).length := Nat.lt_succ_self _
            rw [wordsFrom_cons hdouble, wordsFrom_cons (htail.head? ▸ hdouble)]
            split_ifs
            · exact List.rel_append hpending (ih _ hlt htail [] rfl)
            · exact ih _ hlt htail (word ++ [c]) rfl

/-! ## Groups -/

/-- What stands in a group and what follows it. -/
def cutGroup (t : Text) : Text × Text :=
  (Text.cutAt? ')' t).getD (t, [])

/-- A group is replaced by the word for its value, between spaces. -/
theorem closeGroup_eq (symbols : Symbols) (t : Text) :
    closeGroup symbols t =
      ' ' :: (literal (flatHolds symbols (cutGroup t).1) ++ ' ' :: (cutGroup t).2) :=
  rfl

/-- A group ends at the first closing parenthesis. -/
theorem cutGroup_cons (c : Char) (t : Text) :
    cutGroup (c :: t) =
      if c = ')' then ([], t) else (c :: (cutGroup t).1, (cutGroup t).2) := by
  unfold cutGroup Text.cutAt?
  rw [Text.cutWhere?]
  by_cases hc : c = ')'
  · rw [if_pos hc, if_pos (beq_iff_eq.2 hc), Option.getD_some]
  · rw [if_neg hc, if_neg (mt beq_iff_eq.1 hc)]
    rcases Text.cutWhere? (· == ')') t with _ | ⟨inner, rest⟩ <;> rfl

/-- What stands in front of the first closing parenthesis belongs to the group. -/
theorem cutGroup_append {front : Text} (hfront : ')' ∉ front) (t : Text) :
    cutGroup (front ++ t) = (front ++ (cutGroup t).1, (cutGroup t).2) := by
  induction front with
  | nil => rfl
  | cons c front ih =>
      obtain ⟨hc, hfront⟩ := not_or.1 (mt List.mem_cons.2 hfront)
      rw [List.cons_append, cutGroup_cons, if_neg (Ne.symm hc), ih hfront, List.cons_append]

/-- A word for a truth value belongs to the group around it. -/
theorem cutGroup_literal (value : Bool) (t : Text) :
    cutGroup (' ' :: (literal value ++ ' ' :: t)) =
      (' ' :: (literal value ++ ' ' :: (cutGroup t).1), (cutGroup t).2) := by
  have hliteral : ')' ∉ literal value := by cases value <;> decide
  rw [cutGroup_cons, if_neg (by decide), cutGroup_append hliteral, cutGroup_cons,
    if_neg (by decide)]

/-- Related texts have their first closing parenthesis in the same place. -/
theorem Rises.cutGroup {t u : Text} (h : Rises t u) :
    Rises (cutGroup t).1 (cutGroup u).1 ∧ Rises (cutGroup t).2 (cutGroup u).2 := by
  induction h with
  | nil => exact ⟨.nil, .nil⟩
  | char c htail ih =>
      rw [cutGroup_cons, cutGroup_cons]
      split_ifs
      · exact ⟨.nil, htail⟩
      · exact ⟨.char c ih.1, ih.2⟩
  | literal hvw htail ih =>
      rw [cutGroup_literal, cutGroup_literal]
      exact ⟨.literal hvw ih.1, ih.2⟩

section symbols

variable {a b : Symbols} (hab : ∀ name, a.contains name = true → b.contains name = true)

include hab

/-- A risen text without groups holds with more symbols if the text held. -/
theorem Rises.flatHolds {t u : Text} (h : Rises t u) : flatHolds a t ≤ flatHolds b u :=
  wordsHold_mono hab (h.wordsFrom [])

/-- The two evaluations stay in step while they resolve groups. -/
theorem rises_resolveGroups (t : Text) : Rises (resolveGroups a t) (resolveGroups b t) := by
  induction t with
  | nil => exact .nil
  | cons c t ih =>
      rw [resolveGroups, resolveGroups]
      split_ifs
      · obtain ⟨hinner, hrest⟩ := ih.cutGroup
        rw [closeGroup_eq, closeGroup_eq]
        exact .literal (hinner.flatHolds hab) hrest
      · exact .char c ih

/-- **Conditions are monotone.**  Whatever its text, a condition that holds for some symbols holds
for all symbols that include these. -/
theorem holds_mono (t : Text) (ht : holds a t = true) : holds b t = true :=
  Bool.le_iff_imp.1 ((rises_resolveGroups hab t).flatHolds hab) ht

end symbols

/-- A condition in which a truth value stands in the place of an operator, a group is never closed
and another parenthesis closes nothing; `false` becomes one of the symbols. -/
theorem holds_mono_unbalanced :
    holds { names := ["A"] } "A (B) && C) && ((A".toList = true ∧
      resolveGroups { names := ["A"] } "A (B) && C) && ((A" ≠
        resolveGroups { names := ["B", "false", "A"] } "A (B) && C) && ((A" ∧
      holds { names := ["B", "false", "A"] } "A (B) && C) && ((A".toList = true := by
  have hab : ∀ name, Symbols.contains { names := ["A"] } name = true →
      Symbols.contains { names := ["B", "false", "A"] } name = true := by
    intro name hname
    obtain rfl : name = "A".toList := List.mem_singleton.1 (of_decide_eq_true hname)
    decide
  have ht : holds { names := ["A"] } "A (B) && C) && ((A".toList = true := by decide +kernel
  exact ⟨ht, by decide +kernel, holds_mono hab _ ht⟩

end DeclAtlas.Condition
