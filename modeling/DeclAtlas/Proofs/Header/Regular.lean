import Mathlib
import DeclAtlas.Header.Reading
import DeclAtlas.Proofs.Text.Cutting
import DeclAtlas.Proofs.Text.Words

/-!
# Regular headers

A header is taken apart without a grammar: parts are recognised by single characters and words and
taken off in a fixed order.  A `Regular` header is one in which nothing is recognised by mistake.
It is written word by word as

    visibility modifiers type name = value

where no word has a character at which headers are cut and no word that could be taken for a
keyword stands where keywords are looked for.

* `Regular.parts_text`: taking a regular header apart gives the parts it was written from.
* `Regular.read_text`: so it declares what these parts declare, whatever blanks stand around it.
* `read_blanks`: a header of blanks declares nothing.

One lemma for each part says that the steps before leave it in place; `parts` is their composition.
-/

namespace DeclAtlas.Header

open Text

/-! ## Words of a header -/

/-- The characters of words in a header: no blanks, and none at which a header is cut. -/
def isHeaderChar (c : Char) : Bool :=
  !isBlank c && c != '=' && c != ']' && c != '/'

/-- A word of a header. -/
structure IsWord (word : Text) : Prop where
  /-- There is something to read. -/
  ne_nil : word ≠ []
  /-- Nothing in it cuts the header. -/
  chars : ∀ c ∈ word, isHeaderChar c = true

/-- A character of a header's words is no blank. -/
theorem isBlank_of_isHeaderChar {c : Char} (h : isHeaderChar c = true) : isBlank c = false := by
  simp only [isHeaderChar, Bool.and_eq_true, Bool.not_eq_true'] at h
  exact h.1.1.1

/-- A character of a header's words differs from every other character. -/
theorem ne_of_isHeaderChar {c d : Char} (hc : isHeaderChar c = true)
    (hd : isHeaderChar d = false) : c ≠ d := by
  rintro rfl
  rw [hc] at hd
  cases hd

/-- A word holds no character that words do not have. -/
theorem IsWord.notMem {word : Text} (h : IsWord word) {d : Char} (hd : isHeaderChar d = false) :
    d ∉ word :=
  fun hmem => ne_of_isHeaderChar (h.chars d hmem) hd rfl

/-- A word is not empty and has no blanks. -/
theorem IsWord.plain {word : Text} (h : IsWord word) :
    word ≠ [] ∧ ∀ c ∈ word, isBlank c = false :=
  ⟨h.ne_nil, fun c hc => isBlank_of_isHeaderChar (h.chars c hc)⟩

/-- The visibilities that have a keyword. -/
def accesses : List Visibility :=
  [.publicAccess, .internalAccess, .protectedAccess, .privateAccess]

/-- Every visibility but the unspecified one has a keyword. -/
theorem mem_accesses {access : Visibility} (h : access ≠ .unspecified) : access ∈ accesses := by
  cases access with
  | unspecified => exact absurd rfl h
  | _ => decide

/-- The keywords for visibilities and modifiers. -/
def leadingWords : List Text :=
  accesses.map Visibility.label ++ modifierWords

/-- The words that are neither a type nor a name where they stand in front. -/
def reservedWords : List Text :=
  leadingWords ++ ["partial".toList, "using".toList, "delegate".toList]

/-- The leading keywords are words. -/
theorem isWord_of_mem_leadingWords {word : Text} (h : word ∈ leadingWords) : IsWord word := by
  have hall : leadingWords.all (fun w => !w.isEmpty && w.all isHeaderChar) = true := by decide
  have hboth := List.all_eq_true.1 hall word h
  rw [Bool.and_eq_true, List.all_eq_true] at hboth
  exact ⟨by simpa using hboth.1, hboth.2⟩

/-- The label of a visibility is a leading keyword. -/
theorem label_mem_leadingWords {access : Visibility} (h : access ∈ accesses) :
    access.label ∈ leadingWords :=
  List.mem_append_left _ (List.mem_map_of_mem h)

/-- A modifier is a leading keyword. -/
theorem modifier_mem_leadingWords {word : Text} (h : word ∈ modifierWords) :
    word ∈ leadingWords :=
  List.mem_append_right _ h

/-- The words that state a visibility and modifiers. -/
theorem mem_leadingWords {visibility : Option Visibility} {modifiers : List Text}
    (hvisibility : visibility ≠ some .unspecified)
    (hmodifiers : ∀ word ∈ modifiers, word ∈ modifierWords) {word : Text}
    (h : word ∈ visibility.toList.map Visibility.label ++ modifiers) : word ∈ leadingWords := by
  rcases List.mem_append.1 h with h | h
  · obtain ⟨access, haccess, rfl⟩ := List.mem_map.1 h
    rw [Option.mem_toList] at haccess
    exact label_mem_leadingWords (mem_accesses fun heq => hvisibility (heq ▸ haccess))
  · exact modifier_mem_leadingWords (hmodifiers word h)

/-- What is not reserved is no leading keyword. -/
theorem notMem_leadingWords {word : Text} (h : word ∉ reservedWords) : word ∉ leadingWords :=
  fun hmem => h (List.mem_append_left _ hmem)

/-- What is not reserved names no visibility. -/
theorem ofKeyword?_eq_none {word : Text} (h : word ∉ reservedWords) :
    Visibility.ofKeyword? word = none := by
  refine List.find?_eq_none.2 fun access haccess => ?_
  simp only [beq_iff_eq]
  rintro rfl
  exact notMem_leadingWords h (label_mem_leadingWords haccess)

/-- A modifier names no visibility. -/
theorem ofKeyword?_eq_none_of_modifier {word : Text} (h : word ∈ modifierWords) :
    Visibility.ofKeyword? word = none := by
  have hall : modifierWords.all (fun w => (Visibility.ofKeyword? w).isNone) = true := by decide
  exact Option.isNone_iff_eq_none.1 (List.all_eq_true.1 hall word h)

/-- The label of a visibility is read as that visibility. -/
theorem ofKeyword?_label {access : Visibility} (h : access ≠ .unspecified) :
    Visibility.ofKeyword? access.label = some access := by
  cases access with
  | unspecified => exact absurd rfl h
  | _ => decide

/-! ## Steps that find nothing -/

/-- A text without slashes has no comments. -/
theorem dropComments_of_notMem {kept t : Text} (hkept : '/' ∉ kept) (ht : '/' ∉ t) :
    dropComments kept false t = kept.reverse ++ t := by
  induction t generalizing kept with
  | nil => rw [dropComments, List.append_nil]
  | cons c t ih =>
      obtain ⟨hc, ht⟩ := List.ne_and_not_mem_of_not_mem_cons ht
      have hkeep : '/' ∉ c :: kept := by
        rw [List.mem_cons]
        rintro (heq | hmem)
        · exact hc heq
        · exact hkept hmem
      have hstep : dropComments kept false (c :: t) = dropComments (c :: kept) false t := by
        cases kept with
        | nil => rw [dropComments]; simp
        | cons d kept =>
            have hd : d ≠ '/' := fun heq => hkept (heq ▸ List.mem_cons_self)
            rw [dropComments]
            intro _ heq
            exact absurd (List.cons.inj heq).1 hd
      rw [hstep, ih hkeep ht, List.reverse_cons, List.append_assoc, List.singleton_append]

/-- An import begins with a word of its own. -/
theorem isImport_eq_false {t : Text} (h : (words t).head? ≠ some "using".toList) :
    isImport t = false := by
  by_contra himport
  rw [Bool.not_eq_false, isImport] at himport
  rcases hafter : after? "using" t with _ | rest
  · rw [hafter] at himport
    cases himport
  · rw [hafter] at himport
    rw [eq_of_after? hafter] at h
    cases rest with
    | nil => exact h (by decide)
    | cons c rest =>
        have himport : isBlank c = true := himport
        have husing : words "using" = ["using".toList] := by decide
        rw [words_append_cons himport, husing] at h
        exact h rfl

/-- Without an equals sign there is no default to cut off. -/
theorem cutDefault?_of_notMem {t : Text} (ht : '=' ∉ t) (opened : Bool) :
    cutDefault? opened t = none := by
  induction t generalizing opened with
  | nil => rfl
  | cons c t ih =>
      obtain ⟨hc, ht⟩ := List.ne_and_not_mem_of_not_mem_cons ht
      rw [cutDefault?, ih ht]
      simp [Ne.symm hc]

/-- The first equals sign is cut at if no parenthesis is closed behind it. -/
theorem cutDefault?_append {front value : Text} (hfront : '=' ∉ front) (hvalue : ')' ∉ value)
    (opened : Bool) : cutDefault? opened (front ++ '=' :: value) = some (front, value) := by
  induction front generalizing opened with
  | nil => simp [cutDefault?, hvalue]
  | cons c front ih =>
      obtain ⟨hc, hfront⟩ := List.ne_and_not_mem_of_not_mem_cons hfront
      rw [List.cons_append, cutDefault?, ih hfront]
      simp [Ne.symm hc]

/-- Words that begin with no keyword are left alone. -/
theorem takeKeywords_of_head {rest : List Text} (hrest : ∀ word ∈ rest.head?, word ∉ reservedWords)
    (visibility : Option Visibility) :
    takeKeywords visibility rest = (visibility, [], rest) := by
  cases rest with
  | nil => rfl
  | cons word rest =>
      have hplain : word ∉ reservedWords := hrest word rfl
      have hmodifier : ¬ modifierWords.contains word = true := fun hmem =>
        notMem_leadingWords hplain (modifier_mem_leadingWords (List.contains_iff_mem.1 hmem))
      have hpartial : word ≠ "partial".toList := by
        rintro rfl
        exact hplain (by decide)
      rw [takeKeywords, ofKeyword?_eq_none hplain]
      simp only [if_neg hmodifier, if_neg hpartial]

/-- A declaration without an arrow is made from its parts as they stand. -/
theorem Parts.declare_of_split {parts : Parts} (harrow : parts.hasArrow = false)
    {name bases : Text} (hsplit : splitBases parts.nameAndBases = (name, bases))
    (hne : name ≠ []) (context : HeaderContext) :
    parts.declare context =
      .declaration
        { name
          kind := if context.boundary = .opening ∧ parts.kind = .field then
            functionOrProperty name else parts.kind
          visibility := parts.visibility.getD (Visibility.implied parts.kind context.parent)
          modifiers := parts.modifiers
          type := parts.type
          defaultValue := parts.defaultValue
          attributes := parts.attributes
          bases }
        (context.boundary = .opening ∧ parts.kind = .field) := by
  have hname : parts.name = name := by rw [Parts.name, hsplit]
  have hbases : parts.bases = bases := by rw [Parts.bases, hsplit]
  have hempty : parts.name.isEmpty = false := by simpa [hname] using hne
  rw [Parts.declare, if_neg (by simp [hempty]), hname, hbases, harrow]
  simp only [Bool.false_eq_true, or_false]

/-! ## Regular headers -/

/-- A header that is written word by word. -/
structure Regular where
  /-- The visibility, if one is stated. -/
  visibility : Option Visibility := none
  /-- The modifiers. -/
  modifiers : List Text := []
  /-- The type or container keyword, if there is one. -/
  type : Option Text := none
  /-- The words of the name, its parameter list and the bases. -/
  name : List Text
  /-- The default value, if there is one. -/
  value : Option Text := none
  /-- A stated visibility has a keyword. -/
  visibility_ne : visibility ≠ some .unspecified
  /-- Modifiers are known. -/
  modifiers_mem : ∀ word ∈ modifiers, word ∈ modifierWords
  /-- The type is one word. -/
  type_isWord : ∀ word ∈ type, IsWord word
  /-- The type is not taken for a keyword, nor for part of a generic type or a constructor. -/
  type_plain : ∀ word ∈ type, word ∉ reservedWords ∧ '<' ∉ word ∧ '(' ∉ word
  /-- The name is made of words. -/
  name_isWord : ∀ word ∈ name, IsWord word
  /-- There is a name. -/
  name_ne_nil : name ≠ []
  /-- A name without a type is a single word, or its first word would be the type. -/
  untyped : type = none → ∃ word, name = [word] ∧ word ∉ reservedWords
  /-- The value is one word. -/
  value_isWord : ∀ word ∈ value, IsWord word
  /-- The value does not close a parameter list. -/
  value_plain : ∀ word ∈ value, ')' ∉ word

namespace Regular

variable (h : Regular)

/-- The words that are taken off the front as keywords. -/
def keywords : List Text :=
  h.visibility.toList.map Visibility.label ++ h.modifiers

/-- The words behind the keywords. -/
def subject : List Text :=
  h.type.toList ++ h.name

/-- The words in front of the value. -/
def words : List Text :=
  h.keywords ++ h.subject

/-- The value with its equals sign. -/
def valueText : Text :=
  match h.value with
  | none => []
  | some value => ' ' :: '=' :: ' ' :: value

/-- The header as it is written. -/
def text : Text :=
  join " " h.words ++ h.valueText

/-- The form of the type. -/
def typeForm : TypeForm :=
  match h.type with
  | none => .absent
  | some word => .named word

/-- The parts from which the header is written. -/
def parts : Parts where
  attributes := []
  visibility := h.visibility
  modifiers := h.modifiers
  type := h.typeForm
  nameAndBases := join " " h.name
  defaultValue := h.value.getD []
  hasArrow := false

/-! ### The words -/

/-- Each word of a regular header is a word. -/
theorem isWord_of_mem_words {word : Text} (hword : word ∈ h.words) : IsWord word := by
  rcases List.mem_append.1 hword with hword | hword
  · exact isWord_of_mem_leadingWords (mem_leadingWords h.visibility_ne h.modifiers_mem hword)
  · rcases List.mem_append.1 hword with hword | hword
    · exact h.type_isWord word (Option.mem_toList.1 hword)
    · exact h.name_isWord word hword

/-- The words of a regular header are read back from the joined text. -/
theorem plain_of_mem_words :
    ∀ word ∈ h.words, word ≠ [] ∧ ∀ c ∈ word, isBlank c = false :=
  fun _ hword => (h.isWord_of_mem_words hword).plain

/-- A regular header has at least one word. -/
theorem words_ne_nil : h.words ≠ [] := by
  simp [words, subject, h.name_ne_nil]

/-- A character that cuts headers stands in no word, and between words there are only spaces. -/
theorem notMem_join {d : Char} (hd : isHeaderChar d = false) (hspace : d ≠ ' ') :
    d ∉ join " " h.words := by
  intro hmem
  rcases mem_join hmem with hmem | ⟨word, hword, hmem⟩
  · exact hspace (by simpa using hmem)
  · exact (h.isWord_of_mem_words hword).notMem hd hmem

/-- Behind the keywords a regular header goes on with no reserved word. -/
theorem head_subject : ∀ word ∈ h.subject.head?, word ∉ reservedWords := by
  intro word hword
  rcases htype : h.type with _ | type
  · obtain ⟨name, hname, hplain⟩ := h.untyped htype
    simp only [subject, htype, hname, Option.toList_none, List.nil_append, List.head?_cons,
      Option.mem_some_iff] at hword
    exact hword ▸ hplain
  · simp only [subject, htype, Option.toList_some, List.singleton_append, List.head?_cons,
      Option.mem_some_iff] at hword
    exact hword ▸ (h.type_plain type htype).1

/-! ### Keywords, type, name -/

/-- No keyword is taken from the type and the name. -/
theorem takeKeywords_subject (visibility : Option Visibility) :
    takeKeywords visibility h.subject = (visibility, [], h.subject) :=
  takeKeywords_of_head h.head_subject visibility

/-- All modifiers are taken in front of the type and the name. -/
theorem takeKeywords_modifiers (visibility : Option Visibility) {modifiers : List Text}
    (hmodifiers : ∀ word ∈ modifiers, word ∈ modifierWords) :
    takeKeywords visibility (modifiers ++ h.subject) = (visibility, modifiers, h.subject) := by
  induction modifiers with
  | nil => exact h.takeKeywords_subject visibility
  | cons word rest ih =>
      have hword := hmodifiers word List.mem_cons_self
      have hrest := ih fun w hw => hmodifiers w (List.mem_cons_of_mem word hw)
      rw [List.cons_append, takeKeywords, ofKeyword?_eq_none_of_modifier hword]
      simp only [if_pos (List.contains_iff_mem.2 hword), hrest]

/-- Taking the keywords of a regular header gives back its visibility and its modifiers. -/
theorem takeKeywords_words :
    takeKeywords none h.words = (h.visibility, h.modifiers, h.subject) := by
  rcases hvisibility : h.visibility with _ | access
  · rw [words, keywords, hvisibility]
    exact h.takeKeywords_modifiers none h.modifiers_mem
  · have hkeyword : Visibility.ofKeyword? access.label = some access :=
      ofKeyword?_label fun heq => h.visibility_ne (heq ▸ hvisibility)
    rw [words, keywords, hvisibility]
    simp only [Option.toList_some, List.map_cons, List.map_nil, List.cons_append]
    rw [takeKeywords, hkeyword]
    exact h.takeKeywords_modifiers (some access) h.modifiers_mem

/-- What stands behind the keywords is split into the type and the name. -/
theorem splitType_subject : splitType h.subject = (h.typeForm, h.name) := by
  rcases htype : h.type with _ | type
  · obtain ⟨word, hname, -⟩ := h.untyped htype
    rw [subject, typeForm, htype, hname]
    rfl
  · obtain ⟨hreserved, hgeneric, hopening⟩ := h.type_plain type htype
    have hholds : ∀ c : Char, c ∉ type → anyHolds [type] c = false := by
      intro c hc
      simpa [anyHolds] using hc
    have hends : ∀ behind : List Text,
        ¬ ([type] = ["delegate".toList] ∨ (anyHolds [type] '<' ∧ anyHolds behind '>')) := by
      rintro behind (heq | ⟨hheld, -⟩)
      · rw [List.singleton_inj] at heq
        exact hreserved (heq ▸ by decide)
      · rw [hholds _ hgeneric] at hheld
        cases hheld
    obtain ⟨first, rest, hname⟩ := List.exists_cons_of_ne_nil h.name_ne_nil
    rw [subject, typeForm, htype, hname]
    change takeType [type] (first :: rest) = _
    rw [takeType, if_neg (hends _), if_neg (by simp [hholds _ hopening]), join_singleton]

/-! ### The value -/

/-- A header ends with a character of its last word. -/
theorem exists_text_last : ∃ front c, isHeaderChar c = true ∧ h.text = front ++ [c] := by
  rcases hvalue : h.value with _ | value
  · rcases List.eq_nil_or_concat' (join " " h.words) with hnil | ⟨front, c, hlast⟩
    · exact absurd hnil (join_ne_nil h.plain_of_mem_words h.words_ne_nil)
    · refine ⟨front, c, ?_, by rw [text, valueText, hvalue, List.append_nil, hlast]⟩
      have hblank := isBlank_of_trimEnd ((trimEnd_join h.plain_of_mem_words).trans hlast)
      have hmem : c ∈ join " " h.words :=
        hlast ▸ List.mem_append_right front (List.mem_singleton_self c)
      rcases mem_join hmem with hspace | ⟨word, hword, hc⟩
      · rw [List.mem_singleton.1 hspace] at hblank
        exact absurd hblank (by decide)
      · exact (h.isWord_of_mem_words hword).chars c hc
  · have hword := h.value_isWord value hvalue
    rcases List.eq_nil_or_concat' value with hnil | ⟨front, c, rfl⟩
    · exact absurd hnil hword.ne_nil
    · refine ⟨join " " h.words ++ ' ' :: '=' :: ' ' :: front, c, hword.chars c (by simp), ?_⟩
      rw [text, valueText, hvalue, List.append_assoc]
      rfl

/-- The text of a regular header starts with a character of its first word. -/
theorem exists_text : ∃ c rest, isHeaderChar c = true ∧ h.text = c :: rest := by
  obtain ⟨word, rest, hwords⟩ := List.exists_cons_of_ne_nil h.words_ne_nil
  have hword : IsWord word := h.isWord_of_mem_words (hwords ▸ List.mem_cons_self)
  obtain ⟨c, letters, rfl⟩ := List.exists_cons_of_ne_nil hword.ne_nil
  have hc := hword.chars c List.mem_cons_self
  cases rest with
  | nil => exact ⟨c, letters ++ h.valueText, hc, by rw [text, hwords, join_singleton]; rfl⟩
  | cons next rest =>
      refine ⟨c, letters ++ " ".toList ++ join " " (next :: rest) ++ h.valueText, hc, ?_⟩
      rw [text, hwords, join_cons_cons]
      rfl

/-- The text of a regular header does not start with a blank. -/
theorem trimStart_text : trimStart h.text = h.text := by
  obtain ⟨c, rest, hc, htext⟩ := h.exists_text
  rw [htext, trimStart_of_head (isBlank_of_isHeaderChar hc)]

/-- The text of a regular header does not end with a blank. -/
theorem trimEnd_text : trimEnd h.text = h.text := by
  obtain ⟨front, c, hc, htext⟩ := h.exists_text_last
  rw [htext, trimEnd_of_last (isBlank_of_isHeaderChar hc)]

/-- Besides those of its words only spaces and equals signs stand in the text. -/
theorem notMem_text {d : Char} (hd : isHeaderChar d = false) (hspace : d ≠ ' ')
    (hequals : d ≠ '=') : d ∉ h.text := by
  have hvalue : d ∉ h.valueText := by
    unfold valueText
    split
    · exact List.not_mem_nil
    · rename_i value hvalue
      simp [hspace, hequals, (h.value_isWord value hvalue).notMem hd]
  rw [text, List.mem_append]
  rintro (hmem | hmem)
  · exact h.notMem_join hd hspace hmem
  · exact hvalue hmem

/-- The text of a regular header has no equals sign at its end. -/
theorem dropTrailingEquals_text : dropTrailingEquals h.text = h.text := by
  obtain ⟨front, c, hc, htext⟩ := h.exists_text_last
  have hends : h.text.endsWith "=" = false := by
    rw [← Bool.not_eq_true, endsWith, List.isSuffixOf_iff_suffix, htext]
    rintro ⟨before, heq⟩
    have hlast := (List.append_inj_right' heq rfl : "=".toList = [c])
    exact ne_of_isHeaderChar hc (d := '=') (by decide) (List.cons.inj hlast).1.symm
  rw [dropTrailingEquals, hends]
  rfl

/-- The text of a regular header has no arrow. -/
theorem dropArrow_text : dropArrow h.text = (h.text, false) := by
  have hjoin : '=' ∉ join " " h.words := h.notMem_join (by decide) (by decide)
  have hvalue : cutOn? ['=', '>'] h.valueText = none := by
    unfold valueText
    split
    · rfl
    · rename_i value hvalue
      have hequals : '=' ∉ value := (h.value_isWord value hvalue).notMem (by decide)
      have hcut := cutOn?_of_notMem hequals ['>']
      -- the equals sign of the value has a space behind it
      simp [cutOn?, after?, hcut]
  have hcut : cutOn? ['=', '>'] h.text = none := by
    rw [text, cutOn?_append_of_notMem hjoin, hvalue, Option.map_none]
  have harrow : cutOn? "=>" h.text = none := hcut
  rw [dropArrow, harrow]

/-- The text of a regular header has no attributes. -/
theorem splitAttributes_text : splitAttributes h.text = ([], h.text) := by
  have hclosing : ']' ∉ h.text := h.notMem_text (by decide) (by decide) (by decide)
  have hpieces : splitAtChar ']' h.text = [h.text] := by
    refine splitWhere_of_forall fun c hc => ?_
    simp only [beq_eq_false_iff_ne]
    rintro rfl
    exact hclosing hc
  rw [splitAttributes, hpieces]
  simp only [takeAttributes, h.trimStart_text, join_nil]

/-- The default of a regular header is cut off, and its joined words are left. -/
theorem splitDefault_text : splitDefault h.text = (join " " h.words, h.value.getD []) := by
  have hjoin : '=' ∉ join " " h.words := h.notMem_join (by decide) (by decide)
  rcases hvalue : h.value with _ | value
  · rw [text, valueText, hvalue, List.append_nil, splitDefault, cutDefault?_of_notMem hjoin]
    rfl
  · have hword := h.value_isWord value hvalue
    have hfront : '=' ∉ join " " h.words ++ [' '] := by
      rw [List.mem_append, not_or]
      exact ⟨hjoin, by decide⟩
    have hbehind : ')' ∉ ' ' :: value := by
      rw [List.mem_cons, not_or]
      exact ⟨by decide, h.value_plain value hvalue⟩
    have hcut := cutDefault?_append hfront hbehind false
    rw [List.append_assoc, List.singleton_append] at hcut
    rw [text, valueText, hvalue, splitDefault, hcut]
    simp only [Option.getD_some]
    rw [trimEnd_append_space, trimEnd_join h.plain_of_mem_words, trimStart_cons_space,
      trimStart_of_forall hword.plain.2]

/-! ### The whole header -/

/-- Taking a regular header apart gives the parts it was written from. -/
theorem parts_text : Header.parts h.text = h.parts := by
  simp only [Header.parts, h.dropTrailingEquals_text, h.dropArrow_text, h.splitAttributes_text,
    h.splitDefault_text, words_join h.plain_of_mem_words, h.takeKeywords_words,
    h.splitType_subject]
  rfl

/-- A regular header does not start with the keyword of imports. -/
theorem head_words : h.words.head? ≠ some "using".toList := by
  intro hhead
  rcases hkeywords : h.keywords with _ | ⟨word, rest⟩
  · rw [words, hkeywords, List.nil_append] at hhead
    exact h.head_subject _ hhead (by decide)
  · rw [words, hkeywords, List.cons_append, List.head?_cons, Option.some_inj] at hhead
    have hmem : "using".toList ∈ leadingWords :=
      hhead ▸ mem_leadingWords h.visibility_ne h.modifiers_mem
        (show word ∈ h.keywords from hkeywords ▸ List.mem_cons_self)
    exact absurd hmem (by decide)

/-- A regular header is not taken for an import. -/
theorem isImport_text : isImport h.text = false := by
  apply isImport_eq_false
  have hwords : ∃ rest, Text.words h.text = h.words ++ rest := by
    unfold text valueText
    split
    · exact ⟨[], by rw [List.append_nil, words_join h.plain_of_mem_words, List.append_nil]⟩
    · rename_i value _
      exact ⟨Text.words ('=' :: ' ' :: value),
        by rw [words_append_cons (by decide), words_join h.plain_of_mem_words]⟩
  obtain ⟨rest, hrest⟩ := hwords
  rw [hrest, List.head?_append_of_ne_nil _ h.words_ne_nil]
  exact h.head_words

/-- A regular header is not taken for an assignment. -/
theorem isAssignment_text : isAssignment h.text = false := by
  obtain ⟨c, rest, hc, htext⟩ := h.exists_text
  have hne : c ≠ '=' := ne_of_isHeaderChar hc (by decide)
  rw [isAssignment, htext]
  simp [startsWith, List.isPrefixOf, Ne.symm hne]

/-- Blanks around a regular header do not count. -/
theorem stripComments_text {before after : Text} (hbefore : ∀ c ∈ before, isBlank c = true)
    (hafter : ∀ c ∈ after, isBlank c = true) :
    stripComments (before ++ h.text ++ after) = h.text := by
  have hslash : '/' ∉ before ++ h.text ++ after := by
    have hblank : isBlank '/' ≠ true := by decide
    simp only [List.mem_append, not_or]
    exact ⟨⟨fun hmem => hblank (hbefore _ hmem),
      h.notMem_text (by decide) (by decide) (by decide)⟩, fun hmem => hblank (hafter _ hmem)⟩
  rw [stripComments, dropComments_of_notMem List.not_mem_nil hslash, List.reverse_nil,
    List.nil_append, trim, List.append_assoc, trimStart_blanks_append hbefore]
  obtain ⟨c, rest, hc, htext⟩ := h.exists_text
  rw [htext, List.cons_append, trimStart_of_head (isBlank_of_isHeaderChar hc), ← List.cons_append,
    ← htext, trimEnd_append_blanks hafter, trimEnd_text]

/-- A regular header declares what its parts declare. -/
theorem read_text (context : HeaderContext) {before after : Text}
    (hbefore : ∀ c ∈ before, isBlank c = true) (hafter : ∀ c ∈ after, isBlank c = true) :
    Header.read context (before ++ h.text ++ after) = h.parts.declare context := by
  simp only [Header.read, h.stripComments_text hbefore hafter, h.isImport_text,
    h.isAssignment_text, h.parts_text]
  simp

/-! ### What it declares -/

/-- A header whose type is the keyword of a container has the kind of this container. -/
theorem kind_of_container {kind : Kind} (hkind : kind.isContainer = true)
    (htype : h.type = some kind.label) : h.parts.kind = kind := by
  have hkeyword : Kind.ofKeyword? kind.label = some kind := by
    cases kind with
    | function | property | field => cases hkind
    | _ => decide
  simp only [Parts.kind, parts, typeForm, htype, hkeyword, Option.getD_some]

/-- A header whose type is no keyword is that of a field. -/
theorem kind_of_not_keyword (htype : ∀ word ∈ h.type, Kind.ofKeyword? word = none) :
    h.parts.kind = .field := by
  rcases hform : h.type with _ | word
  · simp only [Parts.kind, parts, typeForm, hform]
    rfl
  · simp only [Parts.kind, parts, typeForm, hform, htype word hform]
    rfl

/-- The declaration that a regular header makes. -/
theorem declare_parts (context : HeaderContext) {name bases : Text}
    (hsplit : splitBases (join " " h.name) = (name, bases)) (hname : name ≠ []) :
    h.parts.declare context =
      .declaration
        { name
          kind := if context.boundary = .opening ∧ h.parts.kind = .field then
            functionOrProperty name else h.parts.kind
          visibility := h.visibility.getD (Visibility.implied h.parts.kind context.parent)
          modifiers := h.modifiers
          type := h.typeForm
          defaultValue := h.value.getD []
          bases }
        (context.boundary = .opening ∧ h.parts.kind = .field) :=
  Parts.declare_of_split rfl hsplit hname context

end Regular

/-! ## Bases -/

/-- Without a colon there are no bases. -/
theorem splitBases_of_notMem {t : Text} (h : ':' ∉ t) : splitBases t = (t, []) := by
  rw [splitBases, cutAt?_eq_none_iff.2 h]

/-- What follows a lone colon is the base. -/
theorem splitBases_join {name base : Text} (hname : IsWord name) (hcolon : ':' ∉ name)
    (hbase : IsWord base) : splitBases (join " " [name, [':'], base]) = (name, base) := by
  have htext : join " " [name, [':'], base] = (name ++ [' ']) ++ ':' :: ' ' :: base := by
    rw [join_cons_cons, join_cons_cons, join_singleton]
    simp
  have hfront : ':' ∉ name ++ [' '] := by
    rw [List.mem_append, not_or]
    exact ⟨hcolon, by decide⟩
  rw [htext, splitBases, cutAt?_append _ hfront]
  simp only [trimEnd_append_space, trimStart_cons_space, trimEnd_of_forall hname.plain.2,
    trimStart_of_forall hbase.plain.2]

/-- A header of blanks declares nothing. -/
theorem read_blanks (context : HeaderContext) {t : Text} (ht : ∀ c ∈ t, isBlank c = true) :
    read context t = .nothing := by
  have hslash : '/' ∉ t := fun hmem => absurd (ht _ hmem) (by decide)
  have htrim : trimStart t = [] := by
    have hstart := trimStart_blanks_append ht []
    rwa [List.append_nil] at hstart
  have hstrip : stripComments t = [] := by
    rw [stripComments, dropComments_of_notMem List.not_mem_nil hslash, List.reverse_nil,
      List.nil_append, trim, htrim]
    rfl
  have hassignment : isAssignment [] = false := by decide
  rw [read, hstrip, if_neg (by decide), if_neg (by simp [hassignment])]
  rfl

end DeclAtlas.Header
