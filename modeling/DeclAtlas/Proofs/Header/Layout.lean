import Mathlib
import DeclAtlas.Proofs.Header.Splitting

/-!
# Headers that are laid out

A `Layout` holds the parts of a declaration as they are written in its header:

    [attribute] [attribute] keywords type name : bases = value

Its conditions keep each part out of sight of the searches for the others: attributes may have
colons and equals signs, parameters may have default values, and a generic type may have spaces.

* `Layout.Prints`: the parts written out, with any blanks between them.
* `Layout.read_prints`: reading undoes writing.  The declaration has the attributes, the first
  visibility and all other keywords in order, the type, the name, the bases and the value, whatever
  ends the header and wherever it stands.
-/

namespace DeclAtlas.Header

open Text

/-- The parts of a declaration as they are written in its header. -/
structure Layout where
  /-- The interiors of the attribute groups. -/
  attributes : List Text
  /-- Visibilities, modifiers and `partial`, in any order. -/
  keywords : List Text
  /-- The type. -/
  type : Text
  /-- The name, with the parameter list of a function. -/
  name : Text
  /-- What stands behind the colon. -/
  bases : Option Text
  /-- What stands behind the equals sign. -/
  value : Option Text
  attributes_plain : ∀ interior ∈ attributes, ']' ∉ interior ∧ Unmarked interior
  keywords_mem : ∀ word ∈ keywords, word ∈ keywordsAndPartial
  type_ne_nil : type ≠ []
  type_normal : collapse type = type
  type_plain : '(' ∉ type ∧ '=' ∉ type ∧ Unmarked type
  type_head : type.head? ≠ some '['
  type_reserved : type ∉ reservedWords
  /-- A space in the type lies between angle brackets. -/
  type_spaces : ∀ front behind, type = front ++ ' ' :: behind → '<' ∈ front ∧ '>' ∈ behind
  name_ne_nil : name ≠ []
  name_normal : collapse name = name
  name_plain : ':' ∉ name ∧ Unmarked name
  /-- An equals sign in the name lies in the parameter list. -/
  name_sheltered : Sheltered name
  bases_plain : ∀ base ∈ bases, collapse base = base ∧ '=' ∉ base ∧ Unmarked base
  value_plain : ∀ v ∈ value, trim v = v ∧ Unmarked v ∧ v.getLast? ≠ some '='
  /-- Only declarations without parameters have a value. -/
  value_alone : value ≠ none → '(' ∉ name ∧ ∀ base ∈ bases, '(' ∉ base
  /-- Behind a generic type there is no other generic. -/
  generic : '<' ∈ type → '>' ∉ name ∧ ∀ base ∈ bases, '>' ∉ base

namespace Layout

variable (h : Layout)

/-- The words behind the name. -/
def behindName : List Text :=
  match h.bases with
  | none => []
  | some bases => [':'] :: Text.words bases

/-- The words behind the type. -/
def subject : List Text :=
  Text.words h.name ++ h.behindName

/-- The words in front of the value. -/
def words : List Text :=
  h.keywords ++ (Text.words h.type ++ h.subject)

/-- The equals sign with the value behind a gap. -/
def valueText (gap : Text) : Text :=
  match h.value with
  | none => []
  | some value => '=' :: (gap ++ value)

/-- The first visibility among the keywords. -/
def visibility : Option Visibility :=
  h.keywords.findSome? Visibility.ofKeyword?

/-- All keywords but the first visibility and `partial`. -/
def modifiers : List Text :=
  (h.keywords.eraseP fun word => (Visibility.ofKeyword? word).isSome).filter
    (· != "partial".toList)

/-- The parts that the header is to be taken apart into. -/
def parts : Parts where
  attributes := join ", " h.attributes
  visibility := h.visibility
  modifiers := h.modifiers
  type := .named h.type
  nameAndBases := join " " h.subject
  defaultValue := h.value.getD []
  hasArrow := false

/-! ### Words -/

/-- Keywords are plain words. -/
theorem isWord_of_mem_keywords {word : Text} (hword : word ∈ h.keywords) : IsWord word := by
  rcases List.mem_append.1 (h.keywords_mem word hword) with hmem | hmem
  · exact isWord_of_mem_leadingWords hmem
  · rw [List.mem_singleton.1 hmem]
    have hall : ("partial".toList).all isHeaderChar = true := by decide
    exact ⟨by decide, List.all_eq_true.1 hall⟩

/-- The type has at least one word. -/
theorem words_type_ne_nil : Text.words h.type ≠ [] := by
  intro hnil
  have htype := h.type_normal
  rw [collapse, hnil] at htype
  exact h.type_ne_nil htype.symm

/-- The name has at least one word. -/
theorem words_name_ne_nil : Text.words h.name ≠ [] := by
  intro hnil
  have hname := h.name_normal
  rw [collapse, hnil] at hname
  exact h.name_ne_nil hname.symm

/-- There are words behind the type. -/
theorem subject_ne_nil : h.subject ≠ [] := by
  simp [subject, h.words_name_ne_nil]

/-- Every word is a word of one of the parts. -/
theorem plain_of_mem {word : Text} (hword : word ∈ h.words) :
    word ≠ [] ∧ ∀ c ∈ word, isBlank c = false := by
  rcases List.mem_append.1 hword with hword | hword
  · exact (h.isWord_of_mem_keywords hword).plain
  rcases List.mem_append.1 hword with hword | hword
  · exact plain_of_mem_words hword
  rcases List.mem_append.1 hword with hword | hword
  · exact plain_of_mem_words hword
  unfold behindName at hword
  split at hword
  · exact absurd hword List.not_mem_nil
  · rcases List.mem_cons.1 hword with rfl | hword
    · exact ⟨List.cons_ne_nil ':' [], List.forall_mem_singleton.2 (by decide)⟩
    · exact plain_of_mem_words hword

/-- Spaces of the type are spaces between its words. -/
theorem mem_of_words_type {a b : List Text} (ha : a ≠ []) (hb : b ≠ [])
    (heq : Text.words h.type = a ++ b) : '<' ∈ join " " a ∧ '>' ∈ join " " b := by
  apply h.type_spaces
  rw [← h.type_normal, collapse, heq, join_append _ ha hb, List.append_assoc]
  rfl

/-- The type does not begin with a word that has a meaning of its own. -/
theorem head_type {word : Text} {rest : List Text} (hwords : Text.words h.type = word :: rest) :
    word ∉ reservedWords := by
  cases rest with
  | nil =>
      have htype := h.type_normal
      rw [collapse, hwords, join_singleton] at htype
      rw [htype]
      exact h.type_reserved
  | cons next rest =>
      have hsplit : Text.words h.type = [word] ++ next :: rest := hwords
      obtain ⟨hopen, -⟩ := h.mem_of_words_type (by simp) (by simp) hsplit
      rw [join_singleton] at hopen
      have hall : reservedWords.all (fun word => !word.contains '<') = true := by decide
      intro hreserved
      have hnone := List.all_eq_true.1 hall word hreserved
      rw [List.contains_iff_mem.2 hopen] at hnone
      cases hnone

/-- Nothing behind a generic type closes an angle bracket. -/
theorem notMem_subject (hgeneric : '<' ∈ h.type) : '>' ∉ join " " h.subject := by
  obtain ⟨hname, hbases⟩ := h.generic hgeneric
  intro hmem
  rcases mem_join hmem with hmem | ⟨word, hword, hmem⟩
  · exact absurd hmem (by decide)
  rcases List.mem_append.1 hword with hword | hword
  · exact hname (mem_of_mem_words hword hmem)
  · unfold behindName at hword
    split at hword
    · exact absurd hword List.not_mem_nil
    · rename_i bases hsome
      rcases List.mem_cons.1 hword with rfl | hword
      · exact absurd hmem (by decide)
      · exact hbases bases hsome (mem_of_mem_words hword hmem)

/-- The words of the type are split off in front of the name. -/
theorem splitType_words :
    splitType (Text.words h.type ++ h.subject) = (.named h.type, h.subject) := by
  obtain ⟨word, rest, hwords⟩ := List.exists_cons_of_ne_nil h.words_type_ne_nil
  have htype : join " " ([word] ++ rest) = h.type := by
    rw [List.singleton_append, ← hwords]
    exact h.type_normal
  have hplain : ∀ w ∈ [word] ++ (rest ++ h.subject), w ≠ [] ∧ ∀ c ∈ w, isBlank c = false := by
    intro w hw
    refine h.plain_of_mem (List.mem_append_right _ ?_)
    rwa [hwords]
  have hhere : Stops (join " " ([word] ++ rest)) (join " " h.subject) := by
    rw [htype]
    refine ⟨?_, fun hboth => h.notMem_subject hboth.1 hboth.2⟩
    intro hdelegate
    exact h.type_reserved (hdelegate ▸ by decide)
  have hfirst : ∀ x y, y ≠ [] → rest = x ++ y →
      ¬ Stops (join " " ([word] ++ x)) (join " " (y ++ h.subject)) := by
    rintro x y hy rfl ⟨-, hbetween⟩
    have hsplit : Text.words h.type = ([word] ++ x) ++ y := hwords
    obtain ⟨hopen, hclose⟩ := h.mem_of_words_type (by simp) hy hsplit
    refine hbetween ⟨hopen, ?_⟩
    rw [join_append _ hy h.subject_ne_nil, List.append_assoc]
    exact List.mem_append_left _ hclose
  rw [hwords, List.cons_append]
  change takeType [word] (rest ++ h.subject) = _
  rw [takeType_of_stops hplain rfl h.subject_ne_nil hhere hfirst, htype, if_neg h.type_plain.1]

/-- Taking the keywords leaves the words of the type and what follows. -/
theorem takeKeywords_words :
    takeKeywords none h.words =
      (h.visibility, h.modifiers, Text.words h.type ++ h.subject) := by
  refine takeKeywords_append h.keywords_mem ?_
  intro word hword
  obtain ⟨first, rest, hwords⟩ := List.exists_cons_of_ne_nil h.words_type_ne_nil
  rw [hwords, List.cons_append, List.head?_cons] at hword
  obtain rfl := Option.some.inj hword
  exact h.head_type hwords

/-- The words behind the type are split into the name and the bases. -/
theorem splitBases_subject :
    splitBases (join " " h.subject) = (h.name, h.bases.getD []) := by
  have hname : join " " (Text.words h.name) = h.name := h.name_normal
  rcases hbases : h.bases with _ | bases
  · rw [subject, behindName, hbases, List.append_nil, hname]
    exact splitBases_of_notMem h.name_plain.1
  · have hbase : join " " (Text.words bases) = bases := (h.bases_plain bases hbases).1
    rw [subject, behindName, hbases]
    rw [splitBases_append (fun _ hword => plain_of_mem_words hword) h.words_name_ne_nil
      (by rw [hname]; exact h.name_plain.1) fun _ hword => plain_of_mem_words hword]
    rw [hname, hbase]
    rfl

/-! ### The words as they are written -/

/-- There are two words at least, and the first one starts no import and no attribute group. -/
theorem exists_words :
    ∃ word next rest, h.words = word :: next :: rest ∧ word ≠ "using".toList ∧
      word.head? ≠ some '[' := by
  obtain ⟨first, types, htypes⟩ := List.exists_cons_of_ne_nil h.words_type_ne_nil
  obtain ⟨second, others, hothers⟩ := List.exists_cons_of_ne_nil h.subject_ne_nil
  cases hkeywords : h.keywords with
  | nil =>
      have husing : first ≠ "using".toList := by
        rintro rfl
        exact h.head_type htypes (by decide)
      have hgroup : first.head? ≠ some '[' := by
        have hfirst : first ≠ [] := (plain_of_mem_words (htypes ▸ List.mem_cons_self)).1
        obtain ⟨c, rest, rfl⟩ := List.exists_cons_of_ne_nil hfirst
        have htype := h.type_normal
        rw [collapse, htypes] at htype
        have hhead := h.type_head
        rw [← htype] at hhead
        cases types with
        | nil => rwa [join_singleton] at hhead
        | cons next types => rwa [join_cons_cons] at hhead
      have hwords : ∃ next rest, h.words = first :: next :: rest := by
        rw [words, hkeywords, htypes, hothers]
        cases types with
        | nil => exact ⟨second, others, rfl⟩
        | cons next types => exact ⟨next, types ++ second :: others, rfl⟩
      obtain ⟨next, rest, hwords⟩ := hwords
      exact ⟨first, next, rest, hwords, husing, hgroup⟩
  | cons keyword keywords =>
      have hmem : keyword ∈ keywordsAndPartial :=
        h.keywords_mem keyword (hkeywords ▸ List.mem_cons_self)
      have hall : keywordsAndPartial.all
          (fun word => word != "using".toList && word.head? != some '[') = true := by decide
      have hboth := List.all_eq_true.1 hall keyword hmem
      rw [Bool.and_eq_true, bne_iff_ne, bne_iff_ne] at hboth
      have hwords : ∃ next rest, h.words = keyword :: next :: rest := by
        rw [words, hkeywords, htypes]
        cases keywords with
        | nil => exact ⟨first, types ++ h.subject, rfl⟩
        | cons next keywords => exact ⟨next, _, rfl⟩
      obtain ⟨next, rest, hwords⟩ := hwords
      exact ⟨keyword, next, rest, hwords, hboth⟩

/-- The words that write the parts, one after the other with any blanks between them and behind
them. -/
structure Fronts (front : Text) : Prop where
  /-- The words are those of the parts. -/
  words : Text.words front = h.words
  /-- The first of them stands in front. -/
  head : ∀ c ∈ front.head?, isBlank c = false

section front

variable {h} {front : Text} (hfront : h.Fronts front)

include hfront

/-- Apart from blanks the words are written one after the other. -/
theorem Fronts.filter_eq :
    front.filter (fun c => !isBlank c) =
      h.keywords.flatten ++ (h.type.filter (fun c => !isBlank c) ++
        (h.name.filter (fun c => !isBlank c) ++ h.behindName.flatten)) := by
  rw [← flatten_words, hfront.words, Layout.words, subject, List.flatten_append,
    List.flatten_append, List.flatten_append, flatten_words, flatten_words]

/-- The characters that are written are those of the parts. -/
theorem Fronts.mem {c : Char} (hc : c ∈ front) (hblank : isBlank c = false) :
    (∃ word ∈ h.keywords, c ∈ word) ∨ c ∈ h.type ∨ c ∈ h.name ∨ c = ':' ∨
      ∃ base ∈ h.bases, c ∈ base := by
  have hmem : c ∈ front.filter (fun c => !isBlank c) := by simpa [hblank] using hc
  rw [hfront.filter_eq, List.mem_append, List.mem_append, List.mem_append, List.mem_flatten] at hmem
  rcases hmem with hmem | hmem | hmem | hmem
  · exact Or.inl hmem
  · exact Or.inr (Or.inl (List.mem_of_mem_filter hmem))
  · exact Or.inr (Or.inr (Or.inl (List.mem_of_mem_filter hmem)))
  · unfold behindName at hmem
    split at hmem
    · exact absurd hmem List.not_mem_nil
    · rename_i bases hbases
      rw [List.flatten_cons, flatten_words] at hmem
      rcases List.mem_cons.1 hmem with rfl | hmem
      · exact Or.inr (Or.inr (Or.inr (Or.inl rfl)))
      · exact Or.inr (Or.inr (Or.inr (Or.inr ⟨bases, hbases, List.mem_of_mem_filter hmem⟩)))

/-- Every equals sign among the words lies between parentheses. -/
theorem Fronts.sheltered : Sheltered front := by
  rw [sheltered_iff_filter, hfront.filter_eq]
  have hkeywords : '=' ∉ h.keywords.flatten := by
    rw [List.mem_flatten]
    rintro ⟨word, hword, hmem⟩
    exact (h.isWord_of_mem_keywords hword).notMem (by decide) hmem
  have htype : '=' ∉ h.type.filter (fun c => !isBlank c) :=
    fun hmem => h.type_plain.2.1 (List.mem_of_mem_filter hmem)
  have hbases : '=' ∉ h.behindName.flatten := by
    unfold behindName
    split
    · exact List.not_mem_nil
    · rename_i bases hbases
      rw [List.flatten_cons, flatten_words]
      intro hmem
      rcases List.mem_append.1 hmem with hmem | hmem
      · exact absurd hmem (by decide)
      · exact (h.bases_plain bases hbases).2.1 (List.mem_of_mem_filter hmem)
  have hname : Sheltered (h.name.filter fun c => !isBlank c) :=
    sheltered_iff_filter.1 h.name_sheltered
  exact .notMem_append hkeywords (.notMem_append htype (hname.append_of_notMem hbases))

/-- There is no arrow and no comment among the words. -/
theorem Fronts.unmarked : Unmarked front := by
  have hpart : ∀ {t word : Text}, collapse t = t → Unmarked t → word ∈ Text.words t →
      Unmarked word := by
    intro t word hnormal ht hword
    refine ht.mono ?_
    rw [← hnormal]
    exact infix_join " " hword
  apply unmarked_of_words
  intro word hword
  rw [hfront.words] at hword
  rcases List.mem_append.1 hword with hword | hword
  · exact unmarked_of_isWord (h.isWord_of_mem_keywords hword)
  rcases List.mem_append.1 hword with hword | hword
  · exact hpart h.type_normal h.type_plain.2.2 hword
  rcases List.mem_append.1 hword with hword | hword
  · exact hpart h.name_normal h.name_plain.2 hword
  unfold behindName at hword
  split at hword
  · exact absurd hword List.not_mem_nil
  · rename_i bases hbases
    obtain ⟨hnormal, -, hbase⟩ := h.bases_plain bases hbases
    rcases List.mem_cons.1 hword with rfl | hword
    · have hempty := unmarked_nil.append_cons (d := ':') (by decide) unmarked_nil
      exact hempty
    · exact hpart hnormal hbase hword

/-- The words do not start with an equals sign. -/
theorem Fronts.head_ne_equals : front.head? ≠ some '=' := by
  intro hhead
  obtain ⟨behind, rfl⟩ := List.head?_eq_some_iff.1 hhead
  obtain ⟨hopen, -⟩ := hfront.sheltered [] behind rfl
  exact absurd hopen List.not_mem_nil

/-- The first word is neither that of an import nor an attribute group, and a blank ends it. -/
theorem Fronts.exists_first :
    ∃ word c behind, isBlank c = true ∧ front = word ++ c :: behind ∧
      Text.words word = [word] ∧ word ≠ "using".toList ∧ word.head? ≠ some '[' := by
  obtain ⟨word, next, rest, hwords, husing, hgroup⟩ := h.exists_words
  have hmem : word ∈ Text.words front := by
    rw [hfront.words, hwords]
    exact List.mem_cons_self
  obtain ⟨hne, hplain⟩ := plain_of_mem_words hmem
  obtain ⟨c, behind, hc, heq⟩ := exists_first_word hfront.head (hfront.words.trans hwords)
  exact ⟨word, c, behind, hc, heq, words_of_forall hne hplain, husing, hgroup⟩

/-- Something is written for the words. -/
theorem Fronts.ne_nil : front ≠ [] := by
  obtain ⟨word, c, behind, -, rfl, -⟩ := hfront.exists_first
  simp

/-- The words do not start with an attribute group. -/
theorem Fronts.head_ne_group : front.head? ≠ some '[' := by
  obtain ⟨word, c, behind, hc, rfl, hword, -, hgroup⟩ := hfront.exists_first
  cases word with
  | nil => cases hword
  | cons d word => exact hgroup

/-- Where there is a value, the first equals sign is the one in front of it. -/
theorem Fronts.notMem (hvalue : h.value ≠ none) : '(' ∉ front ∧ '=' ∉ front := by
  have hopening : '(' ∉ front := by
    intro hmem
    obtain ⟨hname, hbases⟩ := h.value_alone hvalue
    rcases hfront.mem hmem (by decide) with ⟨word, hword, hc⟩ | hc | hc | hc | ⟨base, hbase, hc⟩
    · have hall : keywordsAndPartial.all (fun word => !word.contains '(') = true := by decide
      have hnone := List.all_eq_true.1 hall word (h.keywords_mem word hword)
      rw [List.contains_iff_mem.2 hc] at hnone
      cases hnone
    · exact h.type_plain.1 hc
    · exact hname hc
    · exact absurd hc (by decide)
    · exact hbases base hbase hc
  refine ⟨hopening, fun hmem => ?_⟩
  obtain ⟨before, behind, rfl⟩ := List.append_of_mem hmem
  exact hopening (List.mem_append_left _ (hfront.sheltered before behind rfl).1)

/-- Something is left of the words without the blanks behind them. -/
theorem Fronts.trimEnd_ne_nil : trimEnd front ≠ [] := by
  obtain ⟨c, rest, hcons⟩ := List.exists_cons_of_ne_nil hfront.ne_nil
  have hc := hfront.head c (by rw [hcons]; rfl)
  exact Text.trimEnd_ne_nil (hcons ▸ List.mem_cons_self) hc

/-- Without a value the whole front is kept. -/
theorem Fronts.splitDefault_trimEnd : splitDefault (trimEnd front) = (trimEnd front, []) := by
  have hsheltered : Sheltered (trimEnd front) := by
    obtain ⟨blanks, hblanks, heq⟩ := exists_trimEnd front
    have hfilter : blanks.filter (fun c => !isBlank c) = [] := by
      rw [List.filter_eq_nil_iff]
      intro c hc
      simp [hblanks c hc]
    have hwhole := sheltered_iff_filter.1 hfront.sheltered
    rw [heq, List.filter_append, hfilter, List.append_nil] at hwhole
    exact sheltered_iff_filter.2 hwhole
  have hcut : cutDefault? false (trimEnd front) = none := by
    apply cutDefault?_of_sheltered
    intro a b heq
    obtain ⟨hopen, hclose⟩ := hsheltered a b heq
    exact ⟨Or.inr hopen, hclose⟩
  rw [splitDefault, hcut]

/-- The words start with the same character without the blanks behind them. -/
theorem Fronts.head?_trimEnd : (trimEnd front).head? = front.head? := by
  obtain ⟨blanks, -, heq⟩ := exists_trimEnd front
  conv_rhs => rw [heq, List.head?_append_of_ne_nil _ hfront.trimEnd_ne_nil]

end front

/-! ### The whole header -/

/-- The parts written out: attribute groups, words and the value, with any blanks around them and
between them, and a blank at least in front of the value. -/
inductive Prints : Text → Prop
  | mk {before groups front gap after : Text} (hbefore : ∀ c ∈ before, isBlank c = true)
      (hgroups : Grouped h.attributes groups) (hfront : h.Fronts front) (hne : gap ≠ [])
      (hgap : ∀ c ∈ gap, isBlank c = true) (hafter : ∀ c ∈ after, isBlank c = true) :
      Prints (before ++ (groups ++ (front ++ (h.valueText gap ++ after))))

section text

variable {h} {groups front gap after : Text} (hgroups : Grouped h.attributes groups)
  (hfront : h.Fronts front) (hne : gap ≠ []) (hgap : ∀ c ∈ gap, isBlank c = true)
  (hafter : ∀ c ∈ after, isBlank c = true)

include hgroups hfront hne hgap hafter in
/-- There is no arrow and no comment in what is written for the parts. -/
theorem unmarked_text : Unmarked (groups ++ (front ++ (h.valueText gap ++ after))) := by
  refine hgroups.unmarked_append (fun a ha => (h.attributes_plain a ha).2) ?_
  unfold valueText
  split
  · exact hfront.unmarked.append_blanks hafter
  · rename_i value hvalue
    obtain ⟨c, blanks, rfl⟩ := List.exists_cons_of_ne_nil hne
    have hblanks : ∀ d ∈ blanks, isBlank d = true := fun d hd => hgap d (List.mem_cons_of_mem c hd)
    have hbehind : Unmarked (blanks ++ (value ++ after)) :=
      ((h.value_plain value hvalue).2.1.append_blanks hafter).blanks_append hblanks
    have hwhole := hfront.unmarked.concat_equals.append_cons
      (notMem_marker_of_isBlank (hgap c List.mem_cons_self)) hbehind
    simpa using hwhole

include hgroups hfront in
/-- What is written starts with no blank and no equals sign. -/
theorem head?_groups_append (rest : Text) :
    ∀ c ∈ (groups ++ (front ++ rest)).head?, isBlank c = false ∧ c ≠ '=' := by
  intro c hc
  generalize h.attributes = attributes at hgroups
  cases hgroups with
  | nil =>
      rw [List.nil_append, List.head?_append_of_ne_nil _ hfront.ne_nil] at hc
      refine ⟨hfront.head c hc, ?_⟩
      rintro rfl
      exact hfront.head_ne_equals hc
  | cons =>
      obtain rfl := Option.some.inj hc
      exact ⟨by decide, by decide⟩

include hgroups hfront in
/-- The groups are what stands in front after trimming. -/
theorem trim_text (rest : Text) :
    trim (groups ++ (front ++ rest)) = groups ++ trimEnd (front ++ rest) := by
  have htrim : trimStart (groups ++ (front ++ rest)) = groups ++ (front ++ rest) := by
    cases htext : groups ++ (front ++ rest) with
    | nil => rfl
    | cons c t =>
        have hhead := head?_groups_append hgroups hfront rest c (by rw [htext]; rfl)
        exact trimStart_of_head hhead.1 t
  obtain ⟨c, front', hcons⟩ := List.exists_cons_of_ne_nil hfront.ne_nil
  have hc : isBlank c = false := hfront.head c (by rw [hcons]; rfl)
  have hrest : trimEnd (front ++ rest) ≠ [] :=
    trimEnd_ne_nil (by rw [hcons]; exact List.mem_cons_self) hc
  rw [trim, htrim, trimEnd_append_of_ne_nil hrest]

include hfront hgap hafter in
/-- Behind the groups, the value is parted from the words in front of it. -/
theorem exists_splitDefault (groups : Text) :
    ∃ rest, dropTrailingEquals (groups ++ trimEnd (front ++ (h.valueText gap ++ after))) =
        groups ++ rest ∧ rest.head? = front.head? ∧
      splitDefault rest = (trimEnd front, h.value.getD []) := by
  -- A value that is empty leaves an equals sign at the end, which is dropped.
  have hnothing : dropTrailingEquals (groups ++ trimEnd front) = groups ++ trimEnd front := by
    apply dropTrailingEquals_of_getLast?
    rw [List.getLast?_append_of_ne_nil _ hfront.trimEnd_ne_nil]
    intro hlast
    obtain ⟨before, heq⟩ := List.getLast?_eq_some_iff.1 hlast
    obtain ⟨blanks, hblanks, hall⟩ := exists_trimEnd front
    rw [heq, List.append_assoc] at hall
    have hclose := (hfront.sheltered before blanks hall).2
    exact absurd (hblanks _ hclose) (by decide)
  rcases hvalue : h.value with _ | value
  · refine ⟨trimEnd front, ?_, hfront.head?_trimEnd, hfront.splitDefault_trimEnd⟩
    rw [valueText, hvalue, List.nil_append, trimEnd_append_blanks hafter, hnothing]
  · obtain ⟨hopening, hequals⟩ := hfront.notMem (by rw [hvalue]; simp)
    obtain ⟨htrim, -, hlast⟩ := h.value_plain value hvalue
    have htext : front ++ (h.valueText gap ++ after) =
        (front ++ '=' :: (gap ++ value)) ++ after := by
      rw [valueText, hvalue]
      simp
    rw [htext, trimEnd_append_blanks hafter]
    rcases eq_or_ne value [] with rfl | hvalued
    · refine ⟨trimEnd front, ?_, hfront.head?_trimEnd, hfront.splitDefault_trimEnd⟩
      have hends : trimEnd (front ++ '=' :: (gap ++ [])) = front ++ ['='] := by
        have hassoc : front ++ '=' :: (gap ++ []) = (front ++ ['=']) ++ gap := by simp
        rw [hassoc, trimEnd_append_blanks hgap, trimEnd_of_last (by decide)]
      have hfrontlast : (groups ++ front).getLast? ≠ some '=' := by
        rw [List.getLast?_append_of_ne_nil _ hfront.ne_nil]
        exact fun hlast => hequals (List.mem_of_getLast? hlast)
      rw [hends, ← List.append_assoc, dropTrailingEquals_concat hfrontlast,
        trimEnd_append_of_ne_nil hfront.trimEnd_ne_nil]
    · refine ⟨front ++ '=' :: (gap ++ value), ?_, ?_, ?_⟩
      · have hassoc : front ++ '=' :: (gap ++ value) = (front ++ '=' :: gap) ++ value := by simp
        rw [hassoc, trimEnd_append_self (trimEnd_of_trim htrim) hvalued]
        apply dropTrailingEquals_of_getLast?
        rw [← List.append_assoc, List.getLast?_append_of_ne_nil _ hvalued]
        exact hlast
      · rw [List.head?_append_of_ne_nil _ hfront.ne_nil]
      · rw [splitDefault, cutDefault?_declarator hopening hequals]
        simp only [trimStart_blanks_append hgap, trimStart_of_trim htrim]
        rfl

include hgroups hfront in
/-- What is written is not taken for an import. -/
theorem isImport_text (rest : Text) :
    isImport (groups ++ trimEnd (front ++ rest)) = false := by
  generalize h.attributes = attributes at hgroups
  cases hgroups with
  | nil =>
      obtain ⟨word, c, behind, hc, rfl, hword, husing, -⟩ := hfront.exists_first
      apply isImport_eq_false
      rw [List.nil_append, words_trimEnd, List.append_assoc, List.cons_append,
        words_append_cons hc, hword]
      exact fun hhead => husing (Option.some.inj hhead)
  | cons => rfl

include hgroups hfront in
/-- What is written is not taken for an assignment. -/
theorem isAssignment_text (rest : Text) :
    isAssignment (groups ++ trimEnd (front ++ rest)) = false := by
  have hstart : startsWith (groups ++ trimEnd (front ++ rest)) "=" = false := by
    rw [← Bool.not_eq_true, startsWith, List.isPrefixOf_iff_prefix]
    intro hbegins
    have hwhole : "=".toList <+: groups ++ (front ++ rest) :=
      hbegins.trans ((List.prefix_append_right_inj groups).2 (trimEnd_prefix_self _))
    obtain ⟨behind, heq⟩ := hwhole
    exact (head?_groups_append hgroups hfront rest '=' (by rw [← heq]; rfl)).2 rfl
  rw [isAssignment, hstart]
  rfl

include hgroups hfront hne hgap hafter in
/-- Taking the header apart gives the parts it was written from. -/
theorem parts_text :
    Header.parts (groups ++ trimEnd (front ++ (h.valueText gap ++ after))) = h.parts := by
  obtain ⟨rest, hdrop, hhead, hdefault⟩ := exists_splitDefault hfront hgap hafter groups
  have hunmarked : Unmarked (groups ++ rest) := by
    rw [← hdrop]
    refine (unmarked_text hgroups hfront hne hgap hafter).mono ?_
    exact (dropTrailingEquals_infix_self _).trans
      ((List.prefix_append_right_inj groups).2 (trimEnd_prefix_self _)).isInfix
  have hattributes : splitAttributes (groups ++ rest) = (join ", " h.attributes, rest) := by
    have hstart : ∀ c ∈ rest.head?, c ≠ '[' ∧ isBlank c = false := by
      intro c hc
      rw [hhead] at hc
      refine ⟨?_, hfront.head c hc⟩
      rintro rfl
      exact hfront.head_ne_group hc
    have htake := hgroups.takeAttributes (fun a ha => (h.attributes_plain a ha).1)
      (List.forall_mem_nil fun c => isBlank c = true) hstart
    rw [List.nil_append] at htake
    rw [splitAttributes, htake]
  simp only [Header.parts, hdrop, dropArrow_of_unmarked hunmarked, hattributes, hdefault,
    words_trimEnd, hfront.words, h.takeKeywords_words, h.splitType_words]
  rfl

end text

/-- The parts written with single spaces between them. -/
def text : Text :=
  h.attributes.flatMap (fun interior => '[' :: (interior ++ [']', ' '])) ++
    (join " " h.words ++ (if h.value.isSome then [' '] else []) ++ h.valueText [' '])

/-- Attributes in brackets with a space behind each are attribute groups. -/
theorem grouped_flatMap (attributes : List Text) :
    Grouped attributes (attributes.flatMap fun interior => '[' :: (interior ++ [']', ' '])) := by
  induction attributes with
  | nil => exact .nil
  | cons interior attributes ih =>
      have hspace : ∀ c ∈ [' '], isBlank c = true := List.forall_mem_singleton.2 (by decide)
      have hgroup : Grouped (interior :: attributes) _ := .cons hspace ih
      simpa using hgroup

/-- The text with single spaces is one of the ways to write the parts. -/
theorem prints_text : h.Prints h.text := by
  have hblanks : ∀ c ∈ (if h.value.isSome then [' '] else []), isBlank c = true := by
    split_ifs
    · exact List.forall_mem_singleton.2 (by decide)
    · exact List.forall_mem_nil _
  have hfront : h.Fronts (join " " h.words ++ if h.value.isSome then [' '] else []) := by
    constructor
    · rw [words_append_blanks _ hblanks, words_join fun _ hword => h.plain_of_mem hword]
    · obtain ⟨word, next, rest, hwords, -⟩ := h.exists_words
      have hmem : word ∈ h.words := hwords ▸ List.mem_cons_self
      obtain ⟨hne, hplain⟩ := h.plain_of_mem hmem
      obtain ⟨c, word, rfl⟩ := List.exists_cons_of_ne_nil hne
      rw [hwords, join_cons_cons]
      rintro d hd
      obtain rfl := Option.some.inj hd
      exact hplain c List.mem_cons_self
  have hprints := Prints.mk (List.forall_mem_nil _) (grouped_flatMap h.attributes) hfront
    (List.cons_ne_nil ' ' []) (List.forall_mem_singleton.2 (by decide)) (List.forall_mem_nil _)
  simpa [text] using hprints

variable {h}

/-- **Every way to write the parts** is read as the same declaration. -/
theorem Prints.read {t : Text} (ht : h.Prints t) (context : HeaderContext) :
    Header.read context t = h.parts.declare context := by
  obtain ⟨hbefore, hgroups, hfront, hne, hgap, hafter⟩ := ht
  rename_i before groups front gap after
  have hunmarked := unmarked_text hgroups hfront hne hgap hafter
  have hstrip : stripComments (groups ++ (front ++ (h.valueText gap ++ after))) =
      groups ++ trimEnd (front ++ (h.valueText gap ++ after)) := by
    rw [stripComments, dropComments_of_unmarked hunmarked, trim_text hgroups hfront]
  rw [read_blanks_append context hbefore]
  simp only [Header.read, hstrip, isImport_text hgroups hfront, isAssignment_text hgroups hfront,
    parts_text hgroups hfront hne hgap hafter]
  simp

/-- There is no keyword for fields. -/
theorem ofKeyword?_ne_field (word : Text) : Kind.ofKeyword? word ≠ some .field := by
  intro hfield
  exact absurd (List.mem_of_find?_eq_some hfield) (by decide)

/-- **Reading a header undoes writing it.**  The parts can be written out, and however they are, the
header declares what they say, whatever ends it and wherever it stands.  A type that announces a
container gives its kind; without one, a block makes a function or a property of what is a field
otherwise. -/
theorem read_prints (h : Layout) :
    h.Prints h.text ∧ ∀ t, h.Prints t → ∀ context : HeaderContext,
      Header.read context t =
        .declaration
          { name := h.name
            kind := (Kind.ofKeyword? h.type).getD
              (if context.boundary = .opening then functionOrProperty h.name else .field)
            visibility := h.visibility.getD
              (Visibility.implied ((Kind.ofKeyword? h.type).getD .field) context.parent)
            modifiers := h.modifiers
            type := .named h.type
            defaultValue := h.value.getD []
            attributes := join ", " h.attributes
            bases := h.bases.getD [] }
          (context.boundary = .opening ∧ Kind.ofKeyword? h.type = none) := by
  refine ⟨h.prints_text, ?_⟩
  intro t ht context
  have hkind : h.parts.kind = (Kind.ofKeyword? h.type).getD .field := rfl
  rw [ht.read, Parts.declare_of_split rfl h.splitBases_subject h.name_ne_nil, hkind]
  cases htype : Kind.ofKeyword? h.type with
  | none => simp [parts]
  | some kind =>
      have hfield : kind ≠ .field := by
        rintro rfl
        exact ofKeyword?_ne_field h.type htype
      simp [parts, hfield]

/-- A field with all parts but bases, and with signs in its attributes and its value that mean
something elsewhere. -/
def busyField : Layout where
  attributes := ["Obsolete(\"a: b\", error = true)".toList, "Test".toList]
  keywords := ["protected".toList, "partial".toList, "static".toList, "internal".toList]
  type := "Dictionary<int, string>"
  name := "Table"
  bases := none
  value := some "Make(1) == x ? [a] : b".toList
  attributes_plain := by decide +kernel
  keywords_mem := by decide +kernel
  type_ne_nil := by decide +kernel
  type_normal := by decide +kernel
  type_plain := by decide +kernel
  type_head := by decide +kernel
  type_reserved := by decide +kernel
  type_spaces := forall_cut (by decide +kernel)
  name_ne_nil := by decide +kernel
  name_normal := by decide +kernel
  name_plain := by decide +kernel
  name_sheltered := forall_cut (by decide +kernel)
  bases_plain _ h := absurd h (Option.not_mem_none _)
  value_plain := by
    rintro value hvalue
    obtain rfl := Option.some.inj hvalue
    decide +kernel
  value_alone _ := ⟨by decide +kernel, fun _ h => absurd h (Option.not_mem_none _)⟩
  generic _ := ⟨by decide +kernel, fun _ h => absurd h (Option.not_mem_none _)⟩

/-- The attributes of the field, on a line each. -/
def busyGroups : Text :=
  "[Obsolete(\"a: b\", error = true)]\n[Test]\n"

/-- The words of the field, on two lines. -/
def busyFront : Text :=
  "protected partial\n  static internal Dictionary<int,   string> Table\n  "

/-- The whole field. -/
def busyText : Text :=
  busyGroups ++ (busyFront ++ "= Make(1) == x ? [a] : b".toList)

/-- The busy field is read from a text with line breaks between its parts and inside them. -/
theorem read_prints_busyText :
    busyField.Prints busyText ∧
      Header.read { boundary := .semicolon, parent := some .classType } busyText =
        .declaration
          { name := "Table"
            kind := .field
            visibility := .protectedAccess
            modifiers := ["static".toList, "internal".toList]
            type := .named "Dictionary<int, string>"
            defaultValue := "Make(1) == x ? [a] : b"
            attributes := "Obsolete(\"a: b\", error = true), Test" }
          false := by
  have hline : ∀ c ∈ ['\n'], isBlank c = true := List.forall_mem_singleton.2 (by decide)
  have hgroups : Grouped busyField.attributes busyGroups := .cons hline (.cons hline .nil)
  have hfront : busyField.Fronts busyFront := by
    refine ⟨by decide +kernel, ?_⟩
    intro c hc
    obtain rfl := Option.some.inj hc
    decide
  have hprints : busyField.Prints busyText := by
    have hmade := Prints.mk (List.forall_mem_nil _) hgroups hfront (List.cons_ne_nil ' ' [])
      (List.forall_mem_singleton.2 (by decide)) (List.forall_mem_nil _)
    rwa [List.nil_append, List.append_nil] at hmade
  have hread := (read_prints busyField).2 busyText hprints
    { boundary := .semicolon, parent := some .classType }
  exact ⟨hprints, hread.trans (by decide +kernel)⟩

end Layout

end DeclAtlas.Header
