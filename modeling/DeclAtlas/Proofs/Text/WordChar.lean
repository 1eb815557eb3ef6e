import Mathlib
import DeclAtlas.Text.Alphanumeric

/-!
# Word characters

Letters, digits, `_` and `.`: the characters of names, types and values.  No blank is one
(`isBlank_of_isWordChar`), and a character that is none differs from all of them
(`ne_of_isWordChar`).
-/

namespace DeclAtlas.Text

/-- The characters of names, types and values. -/
def isWordChar (c : Char) : Bool :=
  isAlphanumeric c || c == '_' || c == '.'

/-- The code points of the blanks. -/
def blankPoints : List Nat :=
  [0x09, 0x0A, 0x0B, 0x0C, 0x0D, 0x20, 0x85, 0xA0, 0x1680, 0x2000, 0x2001, 0x2002, 0x2003, 0x2004,
    0x2005, 0x2006, 0x2007, 0x2008, 0x2009, 0x200A, 0x2028, 0x2029, 0x202F, 0x205F, 0x3000]

/-- Every blank is in the list of blanks. -/
theorem mem_blankPoints {c : Char} (h : isBlank c = true) : c.toNat ∈ blankPoints := by
  simp only [isBlank, Bool.or_eq_true, Bool.and_eq_true, decide_eq_true_eq, beq_iff_eq] at h
  simp only [blankPoints, List.mem_cons, List.not_mem_nil, or_false]
  omega

/-- No blank in the list is a word character. -/
theorem isWordChar_of_mem_blankPoints :
    blankPoints.all (fun n => !isWordChar (Char.ofNat n)) = true := by
  decide +kernel

/-- A word character is no blank. -/
theorem isBlank_of_isWordChar {c : Char} (h : isWordChar c = true) : isBlank c = false := by
  by_contra hblank
  rw [Bool.not_eq_false] at hblank
  have hnot := List.all_eq_true.mp isWordChar_of_mem_blankPoints _ (mem_blankPoints hblank)
  rw [Char.ofNat_toNat, h] at hnot
  exact absurd hnot (by decide)

/-- A word character differs from every other character. -/
theorem ne_of_isWordChar {c d : Char} (hc : isWordChar c = true) (hd : isWordChar d = false) :
    c ≠ d := by
  rintro rfl
  rw [hc] at hd
  cases hd

end DeclAtlas.Text
