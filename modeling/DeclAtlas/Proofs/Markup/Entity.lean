import Mathlib
import DeclAtlas.Markup.Entity

/-!
# Escaped text

Escaped text is free of the characters that markup is made of, and it is read back to the text that
was escaped.
-/

namespace DeclAtlas.Markup

theorem escape_cons (c : Char) (t : Text) : escape (c :: t) = escapeChar c ++ escape t :=
  List.flatMap_cons

/-- The characters that mark tags and attribute values. -/
def isDelimiter (c : Char) : Bool :=
  c == '<' || c == '>' || c == '"'

/-- An escaped character marks no tag and no value. -/
theorem escapeChar_any (c : Char) : (escapeChar c).any isDelimiter = false := by
  unfold escapeChar
  split
  case h_6 hlt hgt _ _ hquote =>
    simpa [isDelimiter] using ⟨⟨hlt, hgt⟩, hquote⟩
  all_goals rfl

/-- Escaped text marks no tag and ends no attribute value. -/
theorem isDelimiter_of_mem_escape {t : Text} {d : Char} (hd : d ∈ escape t) :
    isDelimiter d = false := by
  obtain ⟨c, -, hd⟩ := List.mem_flatMap.1 hd
  exact Bool.eq_false_iff.2 (List.any_eq_false.1 (escapeChar_any c) d hd)

/-- No angle bracket and no quote is left in escaped text. -/
theorem notMem_escape {d : Char} (hd : d = '<' ∨ d = '>' ∨ d = '"' ∨ d = '\'') (t : Text) :
    d ∉ escape t := by
  intro hmem
  obtain ⟨c, -, hmem⟩ := List.mem_flatMap.1 hmem
  unfold escapeChar at hmem
  split at hmem
  case h_6 hlt hgt _ hquote hdouble =>
    rw [List.mem_singleton] at hmem
    subst hmem
    rcases hd with hd | hd | hd | hd
    · exact hlt hd
    · exact hgt hd
    · exact hdouble hd
    · exact hquote hd
  all_goals
    rcases hd with rfl | rfl | rfl | rfl <;> revert hmem <;> decide

/-- An escaped character is read as the character. -/
theorem unescapeFrom?_escapeChar (c : Char) (t : Text) :
    unescapeFrom? none (escapeChar c ++ t) = (unescapeFrom? none t).map (c :: ·) := by
  unfold escapeChar
  split
  case h_6 _ _ hamp _ _ =>
    rw [List.singleton_append, unescapeFrom?]
    exact if_neg (by simpa using hamp)
  all_goals
    cases h : unescapeFrom? none t <;> simp [unescapeFrom?, entity?, h]

/-- **Escaping is undone** by reading. -/
theorem unescape?_escape (t : Text) : unescape? (escape t) = some t := by
  induction t with
  | nil => rfl
  | cons c t ih =>
      rw [unescape?] at ih
      rw [escape_cons, unescape?, unescapeFrom?_escapeChar, ih]
      rfl

/-- Texts are unescaped one after the other. -/
theorem unescapeFrom?_append {pending : Option Text} {a x : Text}
    (h : unescapeFrom? pending a = some x) (b : Text) :
    unescapeFrom? pending (a ++ b) = (unescape? b).map (x ++ ·) := by
  induction a generalizing pending x with
  | nil =>
      cases pending with
      | none =>
          cases h
          simp [unescape?]
      | some name => cases h
  | cons c a ih =>
      cases pending with
      | none =>
          rw [unescapeFrom?] at h
          rw [List.cons_append, unescapeFrom?]
          split_ifs at h ⊢
          · exact ih h
          · obtain ⟨y, hy, rfl⟩ := Option.map_eq_some_iff.1 h
            rw [ih hy, Option.map_map]
            rfl
      | some name =>
          rw [unescapeFrom?] at h
          rw [List.cons_append, unescapeFrom?]
          split_ifs at h ⊢
          · simp only [Option.bind_eq_bind, Option.bind_eq_some_iff] at h
            obtain ⟨d, hd, y, hy, hx⟩ := h
            cases hx
            rw [hd, ih hy]
            cases unescape? b <;> rfl
          · exact ih h

/-- Text without ampersands stands for itself. -/
theorem unescape?_of_notMem {t : Text} (h : '&' ∉ t) : unescape? t = some t := by
  induction t with
  | nil => rfl
  | cons c t ih =>
      obtain ⟨hc, ht⟩ := List.ne_and_not_mem_of_not_mem_cons h
      have hrest : unescapeFrom? none t = some t := ih ht
      rw [unescape?, unescapeFrom?]
      simp [Ne.symm hc, hrest]

/-- Texts may be read one after the other, if no entity reaches from one into the other. -/
theorem unescape?_append {a x : Text} (h : unescape? a = some x) (b : Text) :
    unescape? (a ++ b) = (unescape? b).map (x ++ ·) :=
  unescapeFrom?_append h b

end DeclAtlas.Markup
