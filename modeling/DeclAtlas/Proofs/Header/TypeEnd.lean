import Mathlib
import DeclAtlas.Proofs.Header.Name
import DeclAtlas.Proofs.Header.Splitting

/-!
# Where the type ends

The type of a declaration ends at a space, and spaces between angle brackets do not count.  Depth is
not counted, however: a space is taken to lie between angle brackets if one is opened somewhere in
front of it and one is closed somewhere behind it.

This module compares the two.  `FirstCut Stops` is the cut that is made and `FirstCut Outer` the one
at depth zero.  Where angle brackets are nested, the first is never in front of the second
(`Nested.not_stops`).

* `parts_eq_typeAndName`: the search works on the words behind the keywords of a header, and so on a
  text with single spaces.
* `typeAndName_eq`: the type ends at the first space at which the search stops.
* `typeAndName_of_nested`: that is the first space outside angle brackets, unless one is opened in
  front of it and one is closed behind it.  Then the type goes on to the first space behind the last
  angle bracket.
* `typeAndName_genericMethod`: so a method with a generic result and a generic parameter is taken
  for a constructor.
-/

namespace DeclAtlas.Header

open Text

/-- The type of a header without keywords, and what stands behind it. -/
def typeAndName (header : Text) : TypeForm × Text :=
  ((splitType (words header)).1, join " " (splitType (words header)).2)

/-- What stands behind the keywords of a header, with single spaces between the words. -/
def behindKeywords (t : Text) : Text :=
  let declarator := (splitDefault (splitAttributes (dropArrow (dropTrailingEquals t)).1).2).1
  join " " (takeKeywords none (words declarator)).2.2

/-- The words behind the keywords are read back from the joined text. -/
theorem words_behindKeywords (t : Text) :
    words (behindKeywords t) = (takeKeywords none
      (words (splitDefault (splitAttributes (dropArrow (dropTrailingEquals t)).1).2).1)).2.2 :=
  words_join fun _ hword => plain_of_mem_words (mem_of_mem_takeKeywords hword)

/-- There are single spaces between the words behind the keywords. -/
theorem collapse_behindKeywords (t : Text) : collapse (behindKeywords t) = behindKeywords t := by
  rw [collapse, words_behindKeywords]
  rfl

/-- The type and the name of every header are found behind its keywords. -/
theorem parts_eq_typeAndName (t : Text) :
    ((parts t).type, (parts t).nameAndBases) = typeAndName (behindKeywords t) := by
  rw [typeAndName, words_behindKeywords]
  rfl

/-- What a cut in front of the name gives. -/
def typeAt (header front rest : Text) : TypeForm × Text :=
  if '(' ∈ front then (.constructor, header) else (.named front, rest)

/-! ## Cuts -/

/-- A space behind the first text is outside angle brackets. -/
def Outer (front : Text) : Prop :=
  front ≠ "delegate".toList ∧ front.count '<' = front.count '>'

instance (front : Text) : Decidable (Outer front) :=
  inferInstanceAs (Decidable (_ ∧ _))

/-- No space in the first text is one of those at which to cut, and the space behind it is one. -/
structure FirstCut (P : Text → Text → Prop) (front rest : Text) : Prop where
  here : P front rest
  first : ∀ a b, front = a ++ ' ' :: b → ¬ P a (b ++ ' ' :: rest)

/-! ## The search -/

section normal

variable {header : Text} (hnormal : collapse header = header)

include hnormal

/-- A header whose words have single spaces between them is cut between two words. -/
theorem exists_of_cut {front rest : Text} (h : header = front ++ ' ' :: rest) :
    ∃ a b, a ≠ [] ∧ b ≠ [] ∧ words header = a ++ b ∧ front = join " " a ∧ rest = join " " b := by
  refine exists_of_join_eq ?_ ?_
  · intro word hword hspace
    exact absurd (isBlank_of_mem_words hword hspace) (by decide)
  · rw [← h]
    exact hnormal

/-- Without a cut there is no type, and all of the header is the name. -/
theorem typeAndName_of_forall
    (h : ∀ front rest, header = front ++ ' ' :: rest → ¬ Stops front rest) :
    typeAndName header = (.absent, header) := by
  have hplain : ∀ word ∈ words header, word ≠ [] ∧ ∀ c ∈ word, isBlank c = false :=
    fun _ hword => plain_of_mem_words hword
  have hheader : join " " (words header) = header := hnormal
  rw [typeAndName]
  cases hwords : words header with
  | nil =>
      rw [hwords] at hheader
      rw [← hheader]
      rfl
  | cons word rest =>
      rw [hwords] at hheader hplain
      have htake : takeType [word] rest = (.absent, [word] ++ rest) := by
        refine takeType_of_forall hplain ?_
        rintro a b hb rfl
        apply h
        rw [← hheader, ← List.cons_append, join_append _ (List.cons_ne_nil _ _) hb,
          List.append_assoc]
        rfl
      change ((takeType [word] rest).1, join " " (takeType [word] rest).2) = _
      rw [htake, List.singleton_append, hheader]

/-- **The type ends where the search first stops.** -/
theorem typeAndName_eq {front rest : Text} (hcut : header = front ++ ' ' :: rest)
    (h : FirstCut Stops front rest) : typeAndName header = typeAt header front rest := by
  have hplain : ∀ word ∈ words header, word ≠ [] ∧ ∀ c ∈ word, isBlank c = false :=
    fun _ hword => plain_of_mem_words hword
  have hheader : join " " (words header) = header := hnormal
  obtain ⟨a, b, ha, hb, hwords, rfl, rfl⟩ := exists_of_cut hnormal hcut
  obtain ⟨word, a, rfl⟩ := List.exists_cons_of_ne_nil ha
  rw [hwords, List.cons_append] at hheader hplain
  have hearlier : ∀ x y, y ≠ [] → a = x ++ y →
      ¬ Stops (join " " ([word] ++ x)) (join " " (y ++ b)) := by
    rintro x y hy rfl
    have hfront : join " " (word :: (x ++ y)) = join " " (word :: x) ++ ' ' :: join " " y := by
      rw [← List.cons_append, join_append _ (List.cons_ne_nil _ _) hy, List.append_assoc]
      rfl
    have hrest : join " " (y ++ b) = join " " y ++ ' ' :: join " " b := by
      rw [join_append _ hy hb, List.append_assoc]
      rfl
    rw [hrest]
    exact h.first _ _ hfront
  rw [← List.singleton_append] at hplain
  have htake := takeType_of_stops hplain rfl hb h.here hearlier
  rw [typeAndName, hwords]
  change ((takeType [word] (a ++ b)).1, join " " (takeType [word] (a ++ b)).2) = _
  rw [htake, typeAt, List.singleton_append, List.singleton_append]
  split_ifs
  · rw [hheader]
  · rfl

end normal

/-! ## Nested angle brackets -/

/-- Angle brackets are balanced, and none is closed before it is opened. -/
structure Nested (t : Text) : Prop where
  total : t.count '<' = t.count '>'
  before : ∀ front, front <+: t → front.count '>' ≤ front.count '<'

/-- The search does not stop between nested angle brackets. -/
theorem Nested.not_stops {header : Text} (h : Nested header) {front rest : Text}
    (hcut : header = front ++ ' ' :: rest) (hinner : ¬ Outer front) : ¬ Stops front rest := by
  rintro ⟨hdelegate, hbetween⟩
  have hle := h.before front ⟨' ' :: rest, hcut.symm⟩
  have htotal := h.total
  rw [hcut, List.count_append, List.count_append, List.count_cons_of_ne (by decide),
    List.count_cons_of_ne (by decide)] at htotal
  have hdepth : front.count '<' ≠ front.count '>' := fun heq => hinner ⟨hdelegate, heq⟩
  have hopened : 0 < front.count '<' := by omega
  have hclosed : 0 < rest.count '>' := by omega
  exact hbetween ⟨List.count_pos_iff.1 hopened, List.count_pos_iff.1 hclosed⟩

section nested

variable {header : Text} (hnested : Nested header) {front rest : Text}
  (hcut : header = front ++ ' ' :: rest) (hfirst : FirstCut (fun front _ => Outer front) front rest)

include hnested hcut hfirst

/-- The search does not stop in front of the first space outside angle brackets. -/
theorem not_stops_before {a b : Text} (hfront : front = a ++ ' ' :: b) :
    ¬ Stops a (b ++ ' ' :: rest) := by
  refine hnested.not_stops ?_ (hfirst.first a b hfront)
  rw [hcut, hfront, List.append_assoc, List.cons_append]

/-- It stops there, unless an angle bracket is opened in front and one is closed behind. -/
theorem firstCut_stops (h : ¬ ('<' ∈ front ∧ '>' ∈ rest)) : FirstCut Stops front rest :=
  ⟨⟨hfirst.here.1, h⟩, fun _ _ hfront => not_stops_before hnested hcut hfirst hfront⟩

/-- Otherwise it goes on as long as an angle bracket is closed behind. -/
theorem not_stops_of_mem (hopened : '<' ∈ front) {a b : Text} (hheader : header = a ++ ' ' :: b)
    (hclosed : '>' ∈ b) : ¬ Stops a b := by
  rw [hcut] at hheader
  rcases cut_cases hheader with ⟨c, hfront, rfl⟩ | ⟨rfl, rfl⟩ | ⟨c, rfl, -⟩
  · exact not_stops_before hnested hcut hfirst hfront
  · exact fun hstops => hstops.2 ⟨hopened, hclosed⟩
  · exact fun hstops => hstops.2 ⟨List.mem_append_left _ hopened, hclosed⟩

end nested

/-- In front of the last angle bracket and of the word that it ends, every space has one behind
it. -/
theorem mem_of_cut {front before word a b : Text} (hword : ' ' ∉ word)
    (h : front ++ ' ' :: (before ++ '>' :: word) = a ++ ' ' :: b) : '>' ∈ b := by
  rcases cut_cases h with ⟨c, -, rfl⟩ | ⟨-, rfl⟩ | ⟨c, -, hc⟩
  · simp
  · simp
  · rcases List.append_eq_append_iff.1 hc with ⟨d, rfl, hd⟩ | ⟨d, rfl, hd⟩
    · cases d with
      | nil => exact absurd (List.cons.inj hd).1 (by decide)
      | cons e d =>
          obtain ⟨rfl, rfl⟩ := List.cons.inj hd
          exact absurd (by simp) hword
    · cases d with
      | nil => exact absurd (List.cons.inj hd).1 (by decide)
      | cons e d =>
          obtain ⟨rfl, rfl⟩ := List.cons.inj hd
          simp

section between

variable {header : Text} (hnormal : collapse header = header) (hnested : Nested header)
  {front rest : Text} (hcut : header = front ++ ' ' :: rest)
  (hfirst : FirstCut (fun front _ => Outer front) front rest) (hopened : '<' ∈ front)
  {before behind : Text} (hlast : cutAtLast? '>' rest = some (before, behind))

include hnormal hnested hcut hfirst hopened hlast

/-- Without a space behind the last angle bracket there is no type. -/
theorem typeAndName_absent (hspace : cutAt? ' ' behind = none) :
    typeAndName header = (.absent, header) := by
  obtain ⟨hrest, -⟩ := cutAtLast?_eq_some_iff.1 hlast
  apply typeAndName_of_forall hnormal
  intro a b hheader
  refine not_stops_of_mem hnested hcut hfirst hopened hheader ?_
  rw [hcut, hrest] at hheader
  exact mem_of_cut (cutAt?_eq_none_iff.1 hspace) hheader

/-- The type goes on to the first space behind the last angle bracket. -/
theorem typeAndName_later {word others : Text} (hspace : cutAt? ' ' behind = some (word, others)) :
    typeAndName header = typeAt header (front ++ ' ' :: (before ++ '>' :: word)) others := by
  obtain ⟨hrest, hclosed⟩ := cutAtLast?_eq_some_iff.1 hlast
  obtain ⟨rfl, hword⟩ := cutAt?_eq_some_iff.1 hspace
  have hheader : header = (front ++ ' ' :: (before ++ '>' :: word)) ++ ' ' :: others := by
    rw [hcut, hrest]
    simp
  refine typeAndName_eq hnormal hheader ⟨⟨?_, ?_⟩, ?_⟩
  · intro hdelegate
    have hmem : '<' ∈ "delegate".toList := hdelegate ▸ List.mem_append_left _ hopened
    exact absurd hmem (by decide)
  · rintro ⟨-, hmem⟩
    exact hclosed (List.mem_append_right _ (List.mem_cons_of_mem _ hmem))
  · intro a b heq
    refine not_stops_of_mem hnested hcut hfirst hopened ?_
      (List.mem_append_left _ (mem_of_cut hword heq))
    rw [hheader, heq, List.append_assoc, List.cons_append]

end between

/-- Every cut gives a type, be it that of a constructor. -/
theorem typeAt_ne_absent (header front rest t : Text) :
    typeAt header front rest ≠ (.absent, t) := by
  unfold typeAt
  split_ifs <;> simp

/-- Two cuts give the same only where there is no type at both. -/
theorem typeAt_eq_iff {header front rest behind others : Text} :
    typeAt header (front ++ ' ' :: behind) others = typeAt header front rest ↔ '(' ∈ front := by
  constructor
  · intro heq
    by_contra hopening
    have hright : typeAt header front rest = (.named front, rest) := if_neg hopening
    rw [hright, typeAt] at heq
    split_ifs at heq
    · cases (Prod.mk.inj heq).1
    · have hlength := congrArg List.length (TypeForm.named.inj (Prod.mk.inj heq).1)
      rw [List.length_append, List.length_cons] at hlength
      omega
  · intro hopening
    rw [typeAt, typeAt, if_pos hopening, if_pos (List.mem_append_left _ hopening)]

/-- **Where the type ends.**  In a header whose angle brackets are nested, without a space outside
them there is no type.  Otherwise the type ends at the first such space, unless an angle bracket is
opened in front of it and one is closed behind it; then it goes on to the first space behind the
last one that is closed, and the outcome is the same only if both cuts are behind an opening
parenthesis. -/
theorem typeAndName_of_nested {header : Text} (hnormal : collapse header = header)
    (hnested : Nested header) :
    ((∀ front rest, header = front ++ ' ' :: rest → ¬ Outer front) →
      typeAndName header = (.absent, header)) ∧
    ∀ front rest, header = front ++ ' ' :: rest →
      FirstCut (fun front _ => Outer front) front rest →
      (typeAndName header = typeAt header front rest ↔
        ('<' ∈ front → ∀ before behind, cutAtLast? '>' rest = some (before, behind) →
          '(' ∈ front ∧ ' ' ∈ behind)) ∧
      ('<' ∈ front → ∀ before behind, cutAtLast? '>' rest = some (before, behind) →
        (cutAt? ' ' behind = none → typeAndName header = (.absent, header)) ∧
        ∀ word others, cutAt? ' ' behind = some (word, others) →
          typeAndName header =
            typeAt header (front ++ ' ' :: (before ++ '>' :: word)) others) := by
  constructor
  · intro hinner
    apply typeAndName_of_forall hnormal
    intro front rest hcut
    exact hnested.not_stops hcut (hinner front rest hcut)
  intro front rest hcut hfirst
  constructor
  · by_cases hopened : '<' ∈ front
    · cases hlast : cutAtLast? '>' rest with
      | none =>
          have hclosed := cutAtLast?_eq_none_iff.1 hlast
          have houter := typeAndName_eq hnormal hcut
            (firstCut_stops hnested hcut hfirst fun hboth => hclosed hboth.2)
          simp [houter]
      | some cut =>
          obtain ⟨before, behind⟩ := cut
          cases hspace : cutAt? ' ' behind with
          | none =>
              have habsent :=
                typeAndName_absent hnormal hnested hcut hfirst hopened hlast hspace
              rw [habsent]
              have hbehind := cutAt?_eq_none_iff.1 hspace
              simp [hopened, hbehind, (typeAt_ne_absent header front rest header).symm]
          | some cut =>
              obtain ⟨word, others⟩ := cut
              have hlater := typeAndName_later hnormal hnested hcut hfirst hopened hlast hspace
              have hbehind : ' ' ∈ behind := by
                rw [(cutAt?_eq_some_iff.1 hspace).1]
                simp
              rw [hlater, typeAt_eq_iff]
              simp [hopened, hbehind]
    · have houter := typeAndName_eq hnormal hcut
        (firstCut_stops hnested hcut hfirst fun hboth => hopened hboth.1)
      simp [houter, hopened]
  · intro hopened before behind hlast
    exact ⟨typeAndName_absent hnormal hnested hcut hfirst hopened hlast,
      fun _ _ hspace => typeAndName_later hnormal hnested hcut hfirst hopened hlast hspace⟩

/-- Whether angle brackets are nested can be decided from the beginnings of a text. -/
theorem nested_of_inits {t : Text} (htotal : t.count '<' = t.count '>')
    (h : ∀ front ∈ t.inits, front.count '>' ≤ front.count '<') : Nested t :=
  ⟨htotal, fun front hfront => h front ((List.mem_inits front t).2 hfront)⟩

/-- A method with a generic result, in two parts. -/
def tableMethod : Text × Text :=
  ("Dictionary<int, List<string>>".toList, "Table(int n)".toList)

/-- The generic result of the method is its type, with the space inside the angle brackets. -/
theorem typeAndName_tableMethod :
    typeAndName (tableMethod.1 ++ ' ' :: tableMethod.2) =
      (.named tableMethod.1, tableMethod.2) := by
  have hnested : Nested (tableMethod.1 ++ ' ' :: tableMethod.2) :=
    nested_of_inits (by decide +kernel) (by decide +kernel)
  have hfirst : FirstCut (fun front _ => Outer front) tableMethod.1 tableMethod.2 :=
    ⟨by decide +kernel, forall_cut (by decide +kernel)⟩
  obtain ⟨houter, -⟩ :=
    (typeAndName_of_nested (by decide +kernel) hnested).2 tableMethod.1 tableMethod.2 rfl hfirst
  have hclosed : cutAtLast? '>' tableMethod.2 = none := by decide +kernel
  have htype := houter.2 (by simp [hclosed])
  exact htype.trans (if_neg (by decide +kernel))

/-- A method whose result and parameter are generic, in two parts. -/
def genericMethod : Text × Text :=
  ("List<int>".toList, "Find(List<string> xs)".toList)

/-- The first space outside angle brackets is behind the generic result.  Since another angle
bracket is closed in the parameter list, the search does not stop there, and the method is taken for
a constructor. -/
theorem typeAndName_genericMethod :
    Nested (genericMethod.1 ++ ' ' :: genericMethod.2) ∧
      FirstCut (fun front _ => Outer front) genericMethod.1 genericMethod.2 ∧
      '(' ∉ genericMethod.1 ∧
      typeAndName (genericMethod.1 ++ ' ' :: genericMethod.2) =
        (.constructor, genericMethod.1 ++ ' ' :: genericMethod.2) ∧
      Header.read { boundary := .opening, parent := some .classType }
          (genericMethod.1 ++ ' ' :: genericMethod.2) =
        .declaration
          { name := genericMethod.1 ++ ' ' :: genericMethod.2
            kind := .function
            visibility := .privateAccess
            type := .constructor }
          true := by
  refine ⟨nested_of_inits (by decide +kernel) (by decide +kernel),
    ⟨by decide +kernel, forall_cut (by decide +kernel)⟩, ?_⟩
  decide +kernel

end DeclAtlas.Header
