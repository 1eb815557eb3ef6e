import Mathlib
import DeclAtlas.Proofs.Header.Literal

/-!
# How each part of a header is found

A header is taken apart by one search after the other, each over all that the searches before have
left.  This module says for each of them which texts it passes over and where it stops:

* the searches for an arrow and for comments pass over texts without `markers`, and no marker
  reaches over a blank or a bracket (`Unmarked`),
* attribute groups end where the next character opens no group (`Grouped.takeAttributes`),
* the search for a value passes over equals signs between parentheses (`Sheltered`),
* keywords may stand in any order (`takeKeywords_append`),
* the type ends at the first space that is not taken to lie between angle brackets
  (`takeType_of_stops`),
* the first colon parts the name from the bases (`splitBases_append`).
-/

namespace DeclAtlas.Header

open Text

/-! ## Markers -/

/-- The patterns that are looked for anywhere in a header: the arrow and the start of a comment. -/
def markers : List Text :=
  [['=', '>'], ['/', '*']]

/-- A text without markers. -/
def Unmarked (t : Text) : Prop :=
  ∀ marker ∈ markers, ¬ marker <:+: t

instance (t : Text) : Decidable (Unmarked t) :=
  inferInstanceAs (Decidable (∀ marker ∈ markers, ¬ marker <:+: t))

/-- A part of a text without markers has none. -/
theorem Unmarked.mono {t u : Text} (ht : Unmarked t) (h : u <:+: t) : Unmarked u :=
  fun marker hmarker hfound => ht marker hmarker (hfound.trans h)

/-- There are no markers in the empty text. -/
theorem unmarked_nil : Unmarked [] := by
  intro marker hmarker hfound
  rw [List.infix_nil] at hfound
  subst hfound
  exact absurd hmarker (by decide)

/-- There is no blank in a marker. -/
theorem isBlank_of_mem_marker {marker : Text} (hmarker : marker ∈ markers) {c : Char}
    (hc : c ∈ marker) : isBlank c = false := by
  have hall : markers.all (fun marker => marker.all fun c => !isBlank c) = true := by decide
  simpa using List.all_eq_true.1 (List.all_eq_true.1 hall marker hmarker) c hc

/-- No marker reaches over a character that occurs in none. -/
theorem Unmarked.append_cons {a b : Text} (ha : Unmarked a) {d : Char}
    (hd : ∀ marker ∈ markers, d ∉ marker) (hb : Unmarked b) : Unmarked (a ++ d :: b) :=
  fun marker hmarker =>
    not_infix_append_cons (hd marker hmarker) (ha marker hmarker) (hb marker hmarker)

/-- A blank is in no marker. -/
theorem notMem_marker_of_isBlank {c : Char} (hc : isBlank c = true) :
    ∀ marker ∈ markers, c ∉ marker := by
  intro marker hmarker hmem
  rw [isBlank_of_mem_marker hmarker hmem] at hc
  cases hc

/-- Blanks in front of a text make no markers. -/
theorem Unmarked.blanks_append {blanks t : Text} (hblanks : ∀ c ∈ blanks, isBlank c = true)
    (ht : Unmarked t) : Unmarked (blanks ++ t) := by
  induction blanks with
  | nil => exact ht
  | cons c blanks ih =>
      have hc := notMem_marker_of_isBlank (hblanks c List.mem_cons_self)
      exact unmarked_nil.append_cons hc (ih fun d hd => hblanks d (List.mem_cons_of_mem c hd))

/-- Blanks behind a text make no markers. -/
theorem Unmarked.append_blanks {blanks t : Text} (ht : Unmarked t)
    (hblanks : ∀ c ∈ blanks, isBlank c = true) : Unmarked (t ++ blanks) := by
  cases blanks with
  | nil => rwa [List.append_nil]
  | cons c blanks =>
      have hrest := unmarked_nil.blanks_append fun d hd => hblanks d (List.mem_cons_of_mem c hd)
      rw [List.append_nil] at hrest
      exact ht.append_cons (notMem_marker_of_isBlank (hblanks c List.mem_cons_self)) hrest

/-- Markers lie within words. -/
theorem unmarked_of_words {t : Text} (h : ∀ word ∈ words t, Unmarked word) : Unmarked t := by
  intro marker hmarker
  refine not_infix_of_words ?_ (fun c hc => isBlank_of_mem_marker hmarker hc) t
    fun word hword => h word hword marker hmarker
  rintro rfl
  exact absurd hmarker (by decide)

/-- There are no markers in a word. -/
theorem unmarked_of_isWord {word : Text} (h : IsWord word) : Unmarked word := by
  intro marker hmarker hfound
  simp only [markers, List.mem_cons, List.not_mem_nil, or_false] at hmarker
  rcases hmarker with rfl | rfl
  · exact h.notMem (d := '=') (by decide) (hfound.subset List.mem_cons_self)
  · exact h.notMem (d := '/') (by decide) (hfound.subset List.mem_cons_self)

/-- An equals sign at the end is no marker. -/
theorem Unmarked.concat_equals {t : Text} (ht : Unmarked t) : Unmarked (t ++ ['=']) := by
  intro marker hmarker hfound
  rcases List.infix_concat_iff.1 hfound with hsuffix | hfound
  · have hlast : markers.all (fun marker => marker.getLast? != some '=') = true := by decide
    have hmarked := List.all_eq_true.1 hlast marker hmarker
    obtain ⟨front, heq⟩ := hsuffix
    rcases List.eq_nil_or_concat' marker with rfl | ⟨rest, c, rfl⟩
    · exact absurd hmarker (by decide)
    · rw [← List.append_assoc] at heq
      obtain ⟨-, heq⟩ := List.append_inj' heq rfl
      obtain rfl : c = '=' := by simpa using heq
      simp at hmarked
  · exact ht marker hmarker hfound

/-- There are no comments to drop in a text without markers. -/
theorem dropComments_of_unmarked {t : Text} (h : Unmarked t) : dropComments [] false t = t :=
  dropComments_self (h ['/', '*'] (by decide))

/-- There is no arrow to drop in a text without markers. -/
theorem dropArrow_of_unmarked {t : Text} (h : Unmarked t) : dropArrow t = (t, false) := by
  have hcut : cutOn? "=>" t = none := cutOn?_of_not_infix (h ['=', '>'] (by decide))
  rw [dropArrow, hcut]

/-! ## Trailing equals sign -/

/-- A text that does not end with an equals sign is left as it is. -/
theorem dropTrailingEquals_of_getLast? {t : Text} (h : t.getLast? ≠ some '=') :
    dropTrailingEquals t = t := by
  have hends : t.endsWith "=" = false := by
    rw [← Bool.not_eq_true, endsWith, List.isSuffixOf_iff_suffix]
    rintro ⟨front, rfl⟩
    exact h (List.getLast?_concat)
  rw [dropTrailingEquals, hends]
  rfl

/-- One equals sign at the end is dropped with the blanks in front of it. -/
theorem dropTrailingEquals_concat {t : Text} (h : t.getLast? ≠ some '=') :
    dropTrailingEquals (t ++ ['=']) = trimEnd t := by
  have hends : (t ++ ['=']).endsWith "=" = true := by
    rw [endsWith, List.isSuffixOf_iff_suffix]
    exact List.suffix_append t ['=']
  have hdouble : (t ++ ['=']).endsWith "==" = false := by
    rw [← Bool.not_eq_true, endsWith, List.isSuffixOf_iff_suffix]
    rintro ⟨front, heq⟩
    have heq : (front ++ ['=']) ++ ['='] = t ++ ['='] := by
      rw [List.append_assoc]
      exact heq
    obtain ⟨rfl, -⟩ := List.append_inj' heq rfl
    exact h (List.getLast?_concat)
  rw [dropTrailingEquals, hends, hdouble, List.dropLast_concat]
  rfl

/-- Dropping the equals sign at the end leaves a part of the text. -/
theorem dropTrailingEquals_infix_self (t : Text) : dropTrailingEquals t <:+: t := by
  unfold dropTrailingEquals
  split_ifs
  · exact ((trimEnd_prefix_self _).trans (List.dropLast_prefix t)).isInfix
  · exact List.infix_rfl

/-! ## Attributes -/

/-- Attribute groups one after the other, each with any blanks behind it. -/
inductive Grouped : List Text → Text → Prop
  | nil : Grouped [] []
  | cons {interior blanks t : Text} {attributes : List Text}
      (hblanks : ∀ c ∈ blanks, isBlank c = true) (ht : Grouped attributes t) :
      Grouped (interior :: attributes) ('[' :: (interior ++ ']' :: (blanks ++ t)))

/-- Attribute groups have no markers if their attributes have none. -/
theorem Grouped.unmarked_append {attributes : List Text} {groups : Text}
    (h : Grouped attributes groups) (hattributes : ∀ a ∈ attributes, Unmarked a) {t : Text}
    (ht : Unmarked t) : Unmarked (groups ++ t) := by
  induction h with
  | nil => exact ht
  | @cons interior blanks groups attributes hblanks _ ih =>
      have hrest := ih fun a ha => hattributes a (List.mem_cons_of_mem interior ha)
      have hinterior := hattributes interior List.mem_cons_self
      have hgroup : Unmarked (interior ++ ']' :: (blanks ++ (groups ++ t))) :=
        hinterior.append_cons (by decide) (hrest.blanks_append hblanks)
      have hwhole := unmarked_nil.append_cons (d := '[') (by decide) hgroup
      simpa using hwhole

/-- The groups are taken off, and what follows is left. -/
theorem Grouped.takeAttributes {attributes : List Text} {groups : Text}
    (h : Grouped attributes groups) (hattributes : ∀ a ∈ attributes, ']' ∉ a) {t blanks : Text}
    (hblanks : ∀ c ∈ blanks, isBlank c = true)
    (ht : ∀ c ∈ t.head?, c ≠ '[' ∧ isBlank c = false) :
    Header.takeAttributes (splitAtChar ']' (blanks ++ (groups ++ t))) = (attributes, t) := by
  induction h generalizing blanks with
  | nil =>
      have htrim : trimStart t = t := by
        cases t with
        | nil => rfl
        | cons c t => exact trimStart_of_head (ht c rfl).2 t
      have hstart : trimStart (blanks ++ ([] ++ t)) = t := by
        rw [List.nil_append, trimStart_blanks_append hblanks, htrim]
      rw [takeAttributes_of_head, hstart]
      rw [hstart]
      intro hhead
      exact (ht '[' hhead).1 rfl
  | @cons interior gap groups attributes hgap _ ih =>
      have hclosing : ']' ∉ blanks ++ '[' :: interior := by
        rw [List.mem_append, List.mem_cons, not_or, not_or]
        exact ⟨fun hmem => absurd (hblanks _ hmem) (by decide), by decide,
          hattributes interior List.mem_cons_self⟩
      have hsplit : blanks ++ ('[' :: (interior ++ ']' :: (gap ++ groups)) ++ t) =
          (blanks ++ '[' :: interior) ++ ']' :: (gap ++ (groups ++ t)) := by simp
      have htrim : trimStart (blanks ++ '[' :: interior) = '[' :: interior := by
        rw [trimStart_blanks_append hblanks, trimStart_of_head (by decide)]
      have hne : splitAtChar ']' (gap ++ (groups ++ t)) ≠ [] := splitWhere_ne_nil _ _
      rw [hsplit, splitAtChar_append_cons hclosing, takeAttributes_group htrim hne,
        ih (fun a ha => hattributes a (List.mem_cons_of_mem interior ha)) hgap]

/-! ## Default values -/

/-- Every equals sign lies between parentheses. -/
def Sheltered (t : Text) : Prop :=
  ∀ front behind, t = front ++ '=' :: behind → '(' ∈ front ∧ ')' ∈ behind

/-- An equals sign between parentheses cuts nothing off. -/
theorem cutDefault?_of_sheltered {t : Text} {opened : Bool}
    (h : ∀ front behind, t = front ++ '=' :: behind →
      (opened = true ∨ '(' ∈ front) ∧ ')' ∈ behind) : cutDefault? opened t = none := by
  induction t generalizing opened with
  | nil => rfl
  | cons c t ih =>
      have hrest : cutDefault? (opened || c == '(') t = none := by
        apply ih
        rintro front behind rfl
        obtain ⟨hopen, hclose⟩ := h (c :: front) behind rfl
        refine ⟨?_, hclose⟩
        rcases hopen with hopen | hopen
        · exact Or.inl (by rw [hopen, Bool.true_or])
        · rcases List.mem_cons.1 hopen with rfl | hopen
          · exact Or.inl (by simp)
          · exact Or.inr hopen
      have hinside : (c == '=' && !(opened && t.contains ')')) = false := by
        by_cases hc : c = '='
        · obtain ⟨hopen, hclose⟩ := h [] t (by rw [hc]; rfl)
          rcases hopen with hopen | hopen
          · simp [hopen, hclose]
          · exact absurd hopen List.not_mem_nil
        · simp [hc]
      rw [cutDefault?, hinside, hrest]
      rfl

/-- Blanks shelter nothing and need no shelter. -/
theorem sheltered_iff_filter {t : Text} :
    Sheltered t ↔ Sheltered (t.filter fun c => !isBlank c) := by
  constructor
  · intro h front behind heq
    obtain ⟨front', rest, rfl, rfl, hrest⟩ := List.filter_eq_append_iff.1 heq
    obtain ⟨blanks, behind', rfl, hblanks, -, rfl⟩ := List.filter_eq_cons_iff.1 hrest
    obtain ⟨hopen, hclose⟩ := h (front' ++ blanks) behind' (by simp)
    refine ⟨?_, by simpa using ⟨hclose, by decide⟩⟩
    rcases List.mem_append.1 hopen with hopen | hopen
    · simpa using ⟨hopen, by decide⟩
    · exact absurd (show (!isBlank '(') = true by decide) (hblanks '(' hopen)
  · rintro h front behind rfl
    have hequals : (!isBlank '=') = true := by decide
    rw [List.filter_append, List.filter_cons, if_pos hequals] at h
    obtain ⟨hopen, hclose⟩ := h _ _ rfl
    exact ⟨List.mem_of_mem_filter hopen, List.mem_of_mem_filter hclose⟩

/-- A text without equals signs may follow. -/
theorem Sheltered.append_of_notMem {a b : Text} (ha : Sheltered a) (hb : '=' ∉ b) :
    Sheltered (a ++ b) := by
  intro front behind heq
  rcases List.append_eq_append_iff.1 heq with ⟨rest, rfl, rfl⟩ | ⟨rest, rfl, hrest⟩
  · exact absurd (by simp) hb
  · cases rest with
    | nil =>
        rw [List.nil_append] at hrest
        exact absurd (hrest ▸ List.mem_cons_self) hb
    | cons c rest =>
        obtain ⟨rfl, rfl⟩ := List.cons.inj hrest
        obtain ⟨hopen, hclose⟩ := ha front rest rfl
        exact ⟨hopen, List.mem_append_left b hclose⟩

/-- A text without equals signs may stand in front. -/
theorem Sheltered.notMem_append {a b : Text} (ha : '=' ∉ a) (hb : Sheltered b) :
    Sheltered (a ++ b) := by
  intro front behind heq
  rcases List.append_eq_append_iff.1 heq with ⟨rest, rfl, hrest⟩ | ⟨rest, rfl, hrest⟩
  · obtain ⟨hopen, hclose⟩ := hb rest behind hrest
    exact ⟨List.mem_append_right a hopen, hclose⟩
  · cases rest with
    | nil =>
        obtain ⟨hopen, hclose⟩ := hb [] behind hrest.symm
        exact absurd hopen List.not_mem_nil
    | cons c rest =>
        obtain ⟨rfl, rfl⟩ := List.cons.inj hrest
        exact absurd (by simp) ha

/-! ## Keywords -/

/-- The words that may stand in front of the type. -/
def keywordsAndPartial : List Text :=
  leadingWords ++ ["partial".toList]

/-- Keywords state a visibility, modify, or are `partial`. -/
theorem keyword_cases {word : Text} (h : word ∈ keywordsAndPartial) :
    word ≠ "partial".toList ∧ (∃ access, Visibility.ofKeyword? word = some access) ∨
      word ≠ "partial".toList ∧ Visibility.ofKeyword? word = none ∧ word ∈ modifierWords ∨
      word = "partial".toList := by
  rcases List.mem_append.1 h with h | h
  · have hpartial : word ≠ "partial".toList := by
      rintro rfl
      exact absurd h (by decide)
    rcases List.mem_append.1 h with h | h
    · obtain ⟨access, haccess, rfl⟩ := List.mem_map.1 h
      refine Or.inl ⟨hpartial, access, ofKeyword?_label ?_⟩
      rintro rfl
      exact absurd haccess (by decide)
    · exact Or.inr (Or.inl ⟨hpartial, ofKeyword?_eq_none_of_modifier h, h⟩)
  · exact Or.inr (Or.inr (List.mem_singleton.1 h))

section keywords

variable {keywords rest : List Text} (hkeywords : ∀ word ∈ keywords, word ∈ keywordsAndPartial)
  (hrest : ∀ word ∈ rest.head?, word ∉ reservedWords)

include hkeywords hrest

/-- Once a visibility is stated, all other keywords are modifiers. -/
theorem takeKeywords_stated (access : Visibility) :
    takeKeywords (some access) (keywords ++ rest) =
      (some access, keywords.filter (· != "partial".toList), rest) := by
  induction keywords with
  | nil => exact takeKeywords_of_head hrest (some access)
  | cons word keywords ih =>
      have ih := ih fun w hw => hkeywords w (List.mem_cons_of_mem word hw)
      rw [List.cons_append, takeKeywords]
      rcases keyword_cases (hkeywords word List.mem_cons_self) with
        ⟨hpartial, stated, hword⟩ | ⟨hpartial, hword, hmodifier⟩ | hpartial
      · rw [List.filter_cons, if_pos (bne_iff_ne.2 hpartial)]
        simp only [hword, ih]
        rfl
      · rw [List.filter_cons, if_pos (bne_iff_ne.2 hpartial)]
        simp only [hword, if_pos (List.contains_iff_mem.2 hmodifier), ih]
      · have hnone : Visibility.ofKeyword? word = none := by
          rw [hpartial]
          decide
        have hmodifier : ¬ modifierWords.contains word = true := by
          rw [hpartial]
          decide
        rw [List.filter_cons, if_neg fun h => bne_iff_ne.1 h hpartial]
        simp only [hnone, if_neg hmodifier, if_pos hpartial]
        exact ih

/-- **Keywords in any order**: the first visibility is the stated one, and what is left without
`partial` are the modifiers. -/
theorem takeKeywords_append :
    takeKeywords none (keywords ++ rest) =
      (keywords.findSome? Visibility.ofKeyword?,
        (keywords.eraseP fun word => (Visibility.ofKeyword? word).isSome).filter
          (· != "partial".toList), rest) := by
  induction keywords with
  | nil => exact takeKeywords_of_head hrest none
  | cons word keywords ih =>
      have hbehind := fun w hw => hkeywords w (List.mem_cons_of_mem word hw)
      have ih := ih hbehind
      rw [List.cons_append, takeKeywords, List.findSome?_cons, List.eraseP_cons]
      rcases keyword_cases (hkeywords word List.mem_cons_self) with
        ⟨hpartial, stated, hword⟩ | ⟨hpartial, hword, hmodifier⟩ | hpartial
      · simp only [hword]
        exact takeKeywords_stated hbehind hrest stated
      · simp only [hword, if_pos (List.contains_iff_mem.2 hmodifier), ih, Option.isSome_none,
          cond_false]
        rw [List.filter_cons, if_pos (bne_iff_ne.2 hpartial)]
      · have hnone : Visibility.ofKeyword? word = none := by
          rw [hpartial]
          decide
        have hmodifier : ¬ modifierWords.contains word = true := by
          rw [hpartial]
          decide
        simp only [hnone, Option.isSome_none, cond_false, if_neg hmodifier, if_pos hpartial]
        rw [List.filter_cons, if_neg fun h => bne_iff_ne.1 h hpartial]
        exact ih

end keywords

/-! ## Type -/

/-- A character other than a space is in one of the words if it is in the joined text. -/
theorem anyHolds_iff {words' : List Text} {c : Char} (hc : c ≠ ' ') :
    anyHolds words' c = true ↔ c ∈ join " " words' := by
  rw [anyHolds, List.any_eq_true]
  constructor
  · rintro ⟨word, hword, hmem⟩
    exact (infix_join " " hword).subset (List.contains_iff_mem.1 hmem)
  · intro hmem
    rcases mem_join hmem with hmem | ⟨word, hword, hmem⟩
    · exact absurd (List.mem_singleton.1 hmem) hc
    · exact ⟨word, hword, List.contains_iff_mem.2 hmem⟩

/-- The search for the end of the type stops at a space between the two texts. -/
def Stops (front rest : Text) : Prop :=
  front ≠ "delegate".toList ∧ ¬ ('<' ∈ front ∧ '>' ∈ rest)

/-- The search goes on exactly where it does not stop. -/
theorem not_stops_iff {front rest : List Text}
    (hfront : ∀ word ∈ front, word ≠ [] ∧ ∀ c ∈ word, isBlank c = false) :
    ¬ Stops (join " " front) (join " " rest) ↔
      front = ["delegate".toList] ∨ (anyHolds front '<' = true ∧ anyHolds rest '>' = true) := by
  have hdelegate : join " " front = "delegate".toList ↔ front = ["delegate".toList] := by
    constructor
    · intro heq
      rw [← words_join hfront, heq]
      decide
    · rintro rfl
      exact join_singleton _ _
  rw [Stops, ← anyHolds_iff (by decide), ← anyHolds_iff (by decide), ← hdelegate]
  tauto

section search

variable {front rest : List Text}
  (hwords : ∀ word ∈ front ++ rest, word ≠ [] ∧ ∀ c ∈ word, isBlank c = false)

include hwords

/-- Where the search never stops there is no type. -/
theorem takeType_of_forall
    (h : ∀ a b, b ≠ [] → rest = a ++ b → ¬ Stops (join " " (front ++ a)) (join " " b)) :
    takeType front rest = (.absent, front ++ rest) := by
  induction rest generalizing front with
  | nil => rw [takeType, List.append_nil]
  | cons word rest ih =>
      have hhere := h [] (word :: rest) (by simp) rfl
      rw [List.append_nil, not_stops_iff fun w hw => hwords w (List.mem_append_left _ hw)] at hhere
      have hassoc : ∀ t : List Text, front ++ [word] ++ t = front ++ word :: t := by simp
      rw [takeType, if_pos hhere, ih, hassoc]
      · rwa [hassoc]
      · rintro a b hb rfl
        have hnext := h (word :: a) b hb rfl
        rwa [hassoc]

/-- The search ends where it first stops. -/
theorem takeType_of_stops {a b : List Text} (heq : rest = a ++ b) (hb : b ≠ [])
    (hhere : Stops (join " " (front ++ a)) (join " " b))
    (hfirst : ∀ x y, y ≠ [] → a = x ++ y →
      ¬ Stops (join " " (front ++ x)) (join " " (y ++ b))) :
    takeType front rest =
      if '(' ∈ join " " (front ++ a) then (.constructor, front ++ rest)
      else (.named (join " " (front ++ a)), b) := by
  induction a generalizing front rest with
  | nil =>
      obtain ⟨word, b, rfl⟩ := List.exists_cons_of_ne_nil hb
      rw [List.nil_append] at heq
      subst heq
      rw [List.append_nil] at hhere ⊢
      have hpassed : ∀ w ∈ front, w ≠ [] ∧ ∀ c ∈ w, isBlank c = false :=
        fun w hw => hwords w (List.mem_append_left _ hw)
      have hstop := (not_stops_iff hpassed).not_right.1 hhere
      rw [takeType, if_neg hstop]
      simp only [anyHolds_iff (show '(' ≠ ' ' by decide)]
  | cons word a ih =>
      rw [List.cons_append] at heq
      subst heq
      have hon := hfirst [] (word :: a) (by simp) rfl
      rw [List.append_nil, not_stops_iff fun w hw => hwords w (List.mem_append_left _ hw)] at hon
      have hassoc : ∀ t : List Text, front ++ [word] ++ t = front ++ word :: t := by simp
      rw [List.cons_append] at hon
      rw [takeType, if_pos hon, ih _ rfl, hassoc, hassoc]
      · rwa [hassoc]
      · rintro x y hy rfl
        have hnext := hfirst (word :: x) y hy rfl
        rwa [hassoc]
      · rwa [hassoc]

end search

/-! ## Bases -/

/-- The first colon parts the name from the bases. -/
theorem splitBases_append {name : List Text} (hname : ∀ word ∈ name, word ≠ [] ∧
      ∀ c ∈ word, isBlank c = false) (hne : name ≠ []) (hcolon : ':' ∉ join " " name)
    {bases : List Text} (hbases : ∀ word ∈ bases, word ≠ [] ∧ ∀ c ∈ word, isBlank c = false) :
    splitBases (join " " (name ++ [':'] :: bases)) = (join " " name, join " " bases) := by
  have hfront : ':' ∉ join " " name ++ [' '] := by
    rw [List.mem_append, not_or]
    exact ⟨hcolon, by decide⟩
  cases bases with
  | nil =>
      have htext : join " " (name ++ [[':']]) = (join " " name ++ [' ']) ++ ':' :: [] := by
        rw [join_append _ hne (by simp), join_singleton]
        rfl
      rw [htext, splitBases, cutAt?_append _ hfront]
      simp only [trimEnd_append_space, trimEnd_join hname]
      rfl
  | cons base bases =>
      have htext : join " " (name ++ [':'] :: base :: bases) =
          (join " " name ++ [' ']) ++ ':' :: ' ' :: join " " (base :: bases) := by
        rw [join_append _ hne (by simp), join_cons_cons]
        simp
      have htrim : trimStart (join " " (base :: bases)) = join " " (base :: bases) := by
        obtain ⟨hbase, hplain⟩ := hbases base List.mem_cons_self
        obtain ⟨c, rest, rfl⟩ := List.exists_cons_of_ne_nil hbase
        have hc := hplain c List.mem_cons_self
        cases bases with
        | nil =>
            rw [join_singleton]
            exact trimStart_of_head hc rest
        | cons next bases =>
            rw [join_cons_cons]
            exact trimStart_of_head hc _
      rw [htext, splitBases, cutAt?_append _ hfront]
      simp only [trimEnd_append_space, trimStart_cons_space, trimEnd_join hname, htrim]

end DeclAtlas.Header
