import Mathlib
import DeclAtlas.Proofs.Header.Regular

/-!
# Comments in a header, piece by piece

Removing comments looks at one character behind and at one ahead, so a header can be cut at a
character that is part of no delimiter, and its pieces be looked at on their own.

* `dropComments_append_kept`: what has been kept is never given back, up to its last slash.
* `dropComments_append`: a piece in which no comment opens is kept.
* `dropComments_unclosed`: a piece in which an open comment is not closed is dropped.
* `exists_dropComments`: any piece leads to a state that does not depend on what follows.
* `read_blanks_append`: blanks in front of a header do not matter.
-/

namespace DeclAtlas.Header

/-- A character that opens no comment is kept. -/
theorem dropComments_keep {kept : Text} {c : Char} (h : kept.head? = some '/' → c ≠ '*')
    (t : Text) : dropComments kept false (c :: t) = dropComments (c :: kept) false t := by
  rw [dropComments]
  rintro front rfl rfl
  exact h rfl rfl

/-- Inside a comment a character that does not close it is dropped. -/
theorem dropComments_skip {kept t : Text} {c : Char} (h : c = '*' → t.head? ≠ some '/') :
    dropComments kept true (c :: t) = dropComments kept true t := by
  rw [dropComments]
  rintro rest rfl rfl
  exact h rfl rfl

/-- What was kept in front of another character than a slash stays in front. -/
theorem dropComments_append_kept {front : Text} (hfront : front.head? ≠ some '/') (kept : Text)
    (inside : Bool) (t : Text) :
    dropComments (kept ++ front) inside t = front.reverse ++ dropComments kept inside t := by
  fun_induction dropComments kept inside t with
  | case1 kept inside => rw [dropComments, List.reverse_append]
  | case2 kept rest ih => rw [dropComments, ih]
  | case3 kept c rest hopen ih =>
      rw [dropComments, ih]
      exact hopen
  | case4 kept rest ih => rw [List.cons_append, dropComments, ih]
  | case5 kept c rest hkeep ih =>
      rw [dropComments_keep, ← List.cons_append, ih]
      intro hslash hstar
      -- The slash is the last character kept, so it is not in front.
      cases kept with
      | nil => exact hfront hslash
      | cons d kept =>
          obtain rfl : d = '/' := Option.some.inj hslash
          exact hkeep kept rfl hstar

/-- What has been kept stays in front, unless it ends with a slash. -/
theorem dropComments_reverse {front : Text} (hfront : front.getLast? ≠ some '/') (t : Text) :
    dropComments front.reverse false t = front ++ dropComments [] false t := by
  have hpush := dropComments_append_kept (List.head?_reverse ▸ hfront) [] false t
  rwa [List.nil_append, List.reverse_reverse] at hpush

/-- A text in which no comment opens is kept. -/
theorem dropComments_unopened {kept a : Text} (ha : ¬ ['/', '*'] <:+: a)
    (hhead : kept.head? = some '/' → a.head? ≠ some '*') (t : Text) :
    dropComments kept false (a ++ t) = dropComments (a.reverse ++ kept) false t := by
  induction a generalizing kept with
  | nil => rfl
  | cons c a ih =>
      have hc : kept.head? = some '/' → c ≠ '*' := by
        rintro hslash rfl
        exact hhead hslash rfl
      have htail : ¬ ['/', '*'] <:+: a := fun h => ha (h.trans (List.suffix_cons c a).isInfix)
      have hnext : (c :: kept).head? = some '/' → a.head? ≠ some '*' := by
        intro hslash hstar
        obtain rfl : c = '/' := Option.some.inj hslash
        obtain ⟨rest, rfl⟩ := List.head?_eq_some_iff.1 hstar
        exact ha ⟨[], rest, rfl⟩
      rw [List.cons_append, dropComments_keep hc, ih htail hnext, List.reverse_cons,
        List.append_assoc, List.singleton_append]

/-- A text in which no comment opens is kept in front of what follows. -/
theorem dropComments_start {a : Text} (ha : ¬ ['/', '*'] <:+: a) (t : Text) :
    dropComments [] false (a ++ t) = dropComments a.reverse false t := by
  rw [dropComments_unopened ha (by simp), List.append_nil]

/-- A text in which no comment opens is left as it is. -/
theorem dropComments_self {a : Text} (ha : ¬ ['/', '*'] <:+: a) : dropComments [] false a = a := by
  have hkept := dropComments_start ha []
  rwa [List.append_nil, dropComments, List.reverse_reverse] at hkept

/-- A text in which no comment opens is kept, up to a character that is part of no delimiter. -/
theorem dropComments_append {a : Text} (ha : ¬ ['/', '*'] <:+: a) {d : Char} (hslash : d ≠ '/')
    (hstar : d ≠ '*') (t : Text) :
    dropComments [] false (a ++ d :: t) = a ++ d :: dropComments [] false t := by
  have hlast : (a ++ [d]).getLast? ≠ some '/' := by simpa using hslash
  rw [dropComments_start ha, dropComments_keep fun _ => hstar, ← List.reverse_concat,
    dropComments_reverse hlast, List.append_assoc, List.singleton_append]

/-- Inside a comment a text that does not close it is dropped. -/
theorem dropComments_unclosed (kept : Text) {a t : Text} (ha : ¬ ['*', '/'] <:+: a)
    (hhead : t.head? ≠ some '/') : dropComments kept true (a ++ t) = dropComments kept true t := by
  induction a with
  | nil => rfl
  | cons c a ih =>
      have htail : ¬ ['*', '/'] <:+: a := fun h => ha (h.trans (List.suffix_cons c a).isInfix)
      rw [List.cons_append, dropComments_skip, ih htail]
      rintro rfl hslash
      cases a with
      | nil => exact hhead hslash
      | cons e a =>
          obtain rfl : e = '/' := Option.some.inj hslash
          exact ha ⟨[], a, rfl⟩

/-- Inside a comment a text that does not close it is dropped, up to a character other than a
slash. -/
theorem dropComments_inside (kept : Text) {a : Text} (ha : ¬ ['*', '/'] <:+: a) {d : Char}
    (hslash : d ≠ '/') (t : Text) :
    dropComments kept true (a ++ d :: t) = dropComments kept true (d :: t) :=
  dropComments_unclosed kept ha fun h => hslash (Option.some.inj h)

/-- Whatever stands in front of a character that is part of no delimiter, the state behind it does
not depend on what follows. -/
theorem exists_dropComments (kept : Text) (inside : Bool) (a : Text) {d : Char} (hslash : d ≠ '/') :
    ∃ (kept' : Text) (inside' : Bool),
      ∀ t, dropComments kept inside (a ++ d :: t) = dropComments kept' inside' (d :: t) := by
  fun_induction dropComments kept inside a with
  | case1 kept inside => exact ⟨kept, inside, fun _ => rfl⟩
  | case2 kept rest ih =>
      obtain ⟨kept', inside', h⟩ := ih
      refine ⟨kept', inside', fun t => ?_⟩
      rw [List.cons_append, List.cons_append, dropComments, h t]
  | case3 kept c rest hopen ih =>
      obtain ⟨kept', inside', h⟩ := ih
      refine ⟨kept', inside', fun t => ?_⟩
      rw [List.cons_append, dropComments_skip, h t]
      rintro rfl hhead
      cases rest with
      | nil => exact hslash (Option.some.inj hhead)
      | cons e rest =>
          obtain rfl : e = '/' := Option.some.inj hhead
          exact hopen rest rfl rfl
  | case4 kept rest ih =>
      obtain ⟨kept', inside', h⟩ := ih
      refine ⟨kept', inside', fun t => ?_⟩
      rw [List.cons_append, dropComments, h t]
  | case5 kept c rest hkeep ih =>
      obtain ⟨kept', inside', h⟩ := ih
      refine ⟨kept', inside', fun t => ?_⟩
      rw [List.cons_append, dropComments_keep, h t]
      rintro hhead rfl
      obtain ⟨front, rfl⟩ := List.head?_eq_some_iff.1 hhead
      exact hkeep front rfl rfl

/-- Blanks in front of a header do not matter. -/
theorem read_blanks_append (context : HeaderContext) {blanks : Text}
    (hblanks : ∀ c ∈ blanks, Text.isBlank c = true) (t : Text) :
    read context (blanks ++ t) = read context t := by
  have hslash : '/' ∉ blanks := fun hmem => absurd (hblanks _ hmem) (by decide)
  have hopens : ¬ ['/', '*'] <:+: blanks := fun h => hslash (h.subset List.mem_cons_self)
  have hlast : blanks.getLast? ≠ some '/' := fun h => hslash (List.mem_of_getLast? h)
  have hdrop : dropComments [] false (blanks ++ t) = blanks ++ dropComments [] false t := by
    rw [dropComments_start hopens, dropComments_reverse hlast]
  have hstrip : stripComments (blanks ++ t) = stripComments t := by
    rw [stripComments, hdrop, Text.trim, Text.trimStart_blanks_append hblanks, stripComments,
      Text.trim]
  rw [read, hstrip, read]

end DeclAtlas.Header
