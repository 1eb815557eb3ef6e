import Mathlib
import DeclAtlas.Source.Basic

/-!
# Slices of a growing source

A source grows at its end while it is read.  Slices that end before the new character stay what
they are, and slices that reach to the end get one more character.  With ranges left out the same
holds as long as the ranges lie in front of the end; a further range that reaches to the end takes
away what stands behind its start (`sliceExcluding_append`).

For sorted ranges that do not overlap, `sliceExcluding_eq_pick` says by offsets what is left: the
characters that lie in none of them, wherever the slice begins and ends.
-/

namespace DeclAtlas.Source

/-- A further character makes a source longer by one. -/
@[simp] theorem size_push (source : Source) (c : Char) :
    (source.push c).size = source.size + 1 := by
  simp [push, size]

/-- A further character changes no slice of what was there. -/
theorem slice_push_of_le (source : Source) (c : Char) (start : Nat) {stop : Nat}
    (h : stop ≤ source.size) : (source.push c).slice start stop = source.slice start stop := by
  rw [slice, push, Array.extract_push_of_le h, slice]

/-- A slice up to the end goes on with the further character. -/
theorem slice_push_size (source : Source) (c : Char) {start : Nat} (h : start ≤ source.size) :
    (source.push c).slice start (source.size + 1) = source.slice start source.size ++ [c] := by
  have hbehind : ¬ source.size + 1 ≤ source.chars.size := Nat.not_succ_le_self _
  have hstart : start ≤ source.chars.size := h
  rw [slice, push, Array.extract_push, if_neg hbehind, if_pos hstart, Array.toList_push]
  rfl

/-- A slice from an offset to the same one is empty. -/
@[simp] theorem slice_self (source : Source) (start : Nat) : source.slice start start = [] := by
  simp [slice]

/-- The last character stands in front of the end. -/
@[simp] theorem before?_push (source : Source) (c : Char) :
    (source.push c).before? (source.size + 1) = some c := by
  simp [before?, get?, push, size]

/-- A further character changes nothing in front of the offsets that were there. -/
theorem before?_push_of_le (source : Source) (c : Char) {offset : Nat} (h : offset ≤ source.size) :
    (source.push c).before? offset = source.before? offset := by
  cases offset with
  | zero => rfl
  | succ previous =>
      simp only [before?, get?, push]
      exact Array.getElem?_push_lt h |>.trans (Array.getElem?_eq_getElem h).symm

/-! ## Slices with ranges left out -/

section ranges

variable (source : Source) (c : Char) {start : Nat} {ranges : List Range}

/-- A slice that ends before the new character stays what it is. -/
theorem sliceExcluding_push_of_le {stop : Nat} (h : stop ≤ source.size) :
    (source.push c).sliceExcluding start stop ranges = source.sliceExcluding start stop ranges := by
  induction ranges generalizing start with
  | nil => exact slice_push_of_le source c start h
  | cons range ranges ih =>
      rw [sliceExcluding, sliceExcluding]
      split_ifs with hout
      · exact ih
      · have hstart : range.start ≤ source.size := by
          simp only [Bool.or_eq_true, decide_eq_true_eq, not_or, Nat.not_le] at hout
          omega
        rw [ih, slice_push_of_le source c start hstart]

/-- A slice that reaches to the end gets the new character. -/
theorem sliceExcluding_push_size (hstart : start ≤ source.size)
    (hranges : ∀ range ∈ ranges, range.start < range.stop ∧ range.stop ≤ source.size) :
    (source.push c).sliceExcluding start (source.size + 1) ranges =
      source.sliceExcluding start source.size ranges ++ [c] := by
  induction ranges generalizing start with
  | nil => exact slice_push_size source c hstart
  | cons range ranges ih =>
      have hrange := hranges range List.mem_cons_self
      have hrest := fun other hother => hranges other (List.mem_cons_of_mem range hother)
      rw [sliceExcluding, sliceExcluding]
      by_cases hpassed : range.stop ≤ start
      · rw [if_pos (by simp [hpassed]), if_pos (by simp [hpassed]), ih hstart hrest]
      · rw [if_neg (by simp [hpassed]; omega), if_neg (by simp [hpassed]; omega),
          ih (by omega) hrest, slice_push_of_le source c start (by omega), List.append_assoc]

/-- Leaving out a range that reaches to the end leaves what stands in front of the range. -/
theorem sliceExcluding_append {limit stop : Nat} (hstart : start ≤ limit) (hlimit : limit < stop)
    (hranges : ∀ range ∈ ranges, range.start < range.stop ∧ range.stop ≤ limit) :
    source.sliceExcluding start stop (ranges ++ [{ start := limit, stop }]) =
      source.sliceExcluding start limit ranges := by
  induction ranges generalizing start with
  | nil =>
      have hmax : max start stop = stop := Nat.max_eq_right (by omega)
      have hinside : ¬ (stop ≤ start ∨ stop ≤ limit) := by omega
      simp only [List.nil_append, sliceExcluding, Bool.or_eq_true, decide_eq_true_eq,
        if_neg hinside, hmax, slice_self, List.append_nil]
  | cons range ranges ih =>
      have hrange := hranges range List.mem_cons_self
      have hrest := fun other hother => hranges other (List.mem_cons_of_mem range hother)
      rw [List.cons_append, sliceExcluding, sliceExcluding]
      by_cases hpassed : range.stop ≤ start
      · rw [if_pos (by simp [hpassed]), if_pos (by simp [hpassed]), ih hstart hrest]
      · rw [if_neg (by simp [hpassed]; omega), if_neg (by simp [hpassed]; omega),
          ih (by omega) hrest]

end ranges

end DeclAtlas.Source

namespace DeclAtlas

/-! ## What is left when ranges are left out -/

instance : Membership Nat Range :=
  ⟨fun range offset => range.start ≤ offset ∧ offset < range.stop⟩

/-- A range holds the offsets from its start up to its end. -/
theorem Range.mem_iff {range : Range} {offset : Nat} :
    offset ∈ range ↔ range.start ≤ offset ∧ offset < range.stop := Iff.rfl

instance (range : Range) (offset : Nat) : Decidable (offset ∈ range) :=
  inferInstanceAs (Decidable (_ ∧ _))

/-- The ranges are sorted and do not overlap: each ends behind its start and in front of the
next. -/
structure Range.Ordered (ranges : List Range) : Prop where
  /-- No range ends before it starts. -/
  start_le : ∀ range ∈ ranges, range.start ≤ range.stop
  /-- No range starts before an earlier one has ended. -/
  pairwise : ranges.Pairwise fun first second => first.stop ≤ second.start

namespace Source

/-- The characters at the offsets from `start` up to `stop` that satisfy a predicate, in order, as
far as there are any. -/
def pick (source : Source) (start stop : Nat) (p : Nat → Bool) : Text :=
  ((List.range' start (stop - start)).filter p).filterMap source.get?

section pick

variable (source : Source) {start stop : Nat} {p q : Nat → Bool}

/-- Only the offsets between start and end matter for what is picked. -/
theorem pick_congr (h : ∀ offset, start ≤ offset → offset < stop → p offset = q offset) :
    source.pick start stop p = source.pick start stop q := by
  have hfilter : (List.range' start (stop - start)).filter p =
      (List.range' start (stop - start)).filter q := by
    refine List.filter_congr fun offset hoffset => ?_
    rw [List.mem_range'_1] at hoffset
    exact h offset hoffset.1 (by omega)
  rw [pick, pick, hfilter]

/-- Picking may be done in two stretches. -/
theorem pick_append {middle : Nat} (hstart : start ≤ middle) (hstop : middle ≤ stop) :
    source.pick start stop p = source.pick start middle p ++ source.pick middle stop p := by
  have hrange : List.range' start (stop - start) =
      List.range' start (middle - start) ++ List.range' middle (stop - middle) := by
    have hsplit := @List.range'_append_1 start (middle - start) (stop - middle)
    rw [Nat.add_sub_cancel' hstart] at hsplit
    rw [hsplit]
    congr 1
    omega
  rw [pick, hrange, List.filter_append, List.filterMap_append]
  rfl

/-- Nothing is picked from an empty stretch. -/
theorem pick_of_le (h : stop ≤ start) : source.pick start stop p = [] := by
  rw [pick, Nat.sub_eq_zero_of_le h]
  rfl

/-- Offsets at the start that do not satisfy the predicate may be left out. -/
theorem pick_of_forall_false {middle : Nat} (hstart : start ≤ middle)
    (h : ∀ offset, start ≤ offset → offset < middle → p offset = false) :
    source.pick start stop p = source.pick middle stop p := by
  have hnone : ∀ stop, stop ≤ middle → source.pick start stop p = [] := by
    intro stop hstop
    have hfilter : (List.range' start (stop - start)).filter p = [] := by
      refine List.filter_eq_nil_iff.2 fun offset hoffset => ?_
      rw [List.mem_range'_1] at hoffset
      rw [h offset hoffset.1 (by omega)]
      exact Bool.false_ne_true
    rw [pick, hfilter]
    rfl
  rcases Nat.le_total middle stop with hle | hle
  · rw [pick_append source hstart hle, hnone middle (Nat.le_refl _), List.nil_append]
  · rw [hnone stop hle, pick_of_le source hle]

/-- A slice picks every offset. -/
theorem slice_eq_pick : source.slice start stop = source.pick start stop fun _ => true := by
  have hdrop : ∀ (t : Text) (start length : Nat),
      (t.drop start).take length = (List.range' start length).filterMap (t[·]?) := by
    intro t start length
    induction length generalizing start with
    | zero => rfl
    | succ length ih =>
        rw [List.range'_succ, List.filterMap_cons, ← ih (start + 1)]
        rcases Nat.lt_or_ge start t.length with hlt | hge
        · rw [List.drop_eq_getElem_cons hlt, List.take_succ_cons, List.getElem?_eq_getElem hlt]
        · rw [List.getElem?_eq_none hge, List.drop_eq_nil_of_le hge,
            List.drop_eq_nil_of_le (Nat.le_succ_of_le hge), List.take_nil, List.take_nil]
  rw [slice, pick, List.filter_true, Array.toList_extract, List.extract_eq_take_drop, hdrop]
  simp only [Array.getElem?_toList]
  rfl

/-- Offsets at the start that all satisfy the predicate make up a slice. -/
theorem pick_of_forall_true {middle : Nat} (hstop : middle ≤ stop)
    (h : ∀ offset, start ≤ offset → offset < middle → p offset = true) :
    source.pick start stop p =
      source.slice start middle ++ source.pick (max start middle) stop p := by
  rcases Nat.le_total start middle with hle | hle
  · rw [pick_append source hle hstop, pick_congr source h, slice_eq_pick, Nat.max_eq_right hle]
  · rw [slice_eq_pick, pick_of_le source hle, Nat.max_eq_left hle, List.nil_append]

/-- **What is left when ranges are left out**: the characters at the offsets that lie in none of
them, in order.  The ranges may touch each other and reach beyond both ends. -/
theorem sliceExcluding_eq_pick {ranges : List Range} (h : Range.Ordered ranges) :
    source.sliceExcluding start stop ranges =
      source.pick start stop fun offset => ∀ range ∈ ranges, offset ∉ range := by
  induction ranges generalizing start with
  | nil => simpa [sliceExcluding] using source.slice_eq_pick
  | cons range ranges ih =>
      obtain ⟨hnext, hpairwise⟩ := List.pairwise_cons.1 h.pairwise
      obtain ⟨hrange, hranges⟩ := List.forall_mem_cons.1 h.start_le
      have hothers : ∀ {offset}, offset ∉ range →
          decide (∀ other ∈ range :: ranges, offset ∉ other) =
            decide (∀ other ∈ ranges, offset ∉ other) := by
        intro offset hnot
        simp only [List.forall_mem_cons, hnot, not_false_eq_true, true_and]
      rw [sliceExcluding]
      split_ifs with hout
      · -- the range lies in front of the slice or behind it
        rw [ih ⟨hranges, hpairwise⟩]
        refine source.pick_congr fun offset hstart hstop => (hothers ?_).symm
        simp only [Bool.or_eq_true, decide_eq_true_eq] at hout
        rw [Range.mem_iff]
        omega
      · simp only [Bool.or_eq_true, decide_eq_true_eq, not_or, Nat.not_le] at hout
        have hfront : ∀ offset, start ≤ offset → offset < range.start →
            decide (∀ other ∈ range :: ranges, offset ∉ other) = true := by
          intro offset _ hoffset
          rw [decide_eq_true_eq, List.forall_mem_cons]
          refine ⟨fun hmem => ?_, fun other hother hmem => ?_⟩
          · exact absurd hmem.1 (Nat.not_le.2 hoffset)
          · have := hnext other hother
            have := hmem.1
            omega
        have hinside : ∀ offset, max start range.start ≤ offset → offset < range.stop →
            decide (∀ other ∈ range :: ranges, offset ∉ other) = false := by
          intro offset hstart hstop
          rw [decide_eq_false_iff_not]
          intro hall
          exact hall range List.mem_cons_self ⟨(Nat.le_max_right _ _).trans hstart, hstop⟩
        have hbehind : ∀ offset, range.stop ≤ offset → offset < stop →
            decide (∀ other ∈ ranges, offset ∉ other) =
              decide (∀ other ∈ range :: ranges, offset ∉ other) := by
          intro offset hoffset _
          exact (hothers fun hmem => absurd hmem.2 (Nat.not_lt.2 hoffset)).symm
        rw [source.pick_of_forall_true hout.2.le hfront,
          source.pick_of_forall_false (Nat.max_le.2 ⟨hout.1.le, hrange⟩) hinside,
          Nat.max_eq_right hout.1.le, ih ⟨hranges, hpairwise⟩, source.pick_congr hbehind]

end pick

end Source

end DeclAtlas
