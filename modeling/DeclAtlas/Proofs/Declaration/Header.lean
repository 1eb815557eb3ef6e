import Mathlib
import DeclAtlas.Proofs.Declaration.Basic

/-!
# The headers of declarations

Each declaration has a regular header, and reading it gives the element that is declared.

* `Head.read`: the head of a container or enum.
* `read_typed`: the first name of a field declaration.
* `Variable.read`: a name without a type, which is a further name of a field declaration or a
  member of an enum.
* `read_withBody`: a method or a property, which has a body.
-/

namespace DeclAtlas.Declaration

open Text

/-! ## Words -/

namespace Word

variable (w : Word)

/-- The characters of a word are word characters. -/
theorem isWordChar_of_mem {c : Char} (hc : c ∈ w.text) : isWordChar c = true :=
  List.all_eq_true.1 w.chars c hc

/-- No other character is in a word. -/
theorem notMem {c : Char} (hc : isWordChar c = false) : c ∉ w.text :=
  fun hmem => ne_of_isWordChar (w.isWordChar_of_mem hmem) hc rfl

/-- A word is a word of a header. -/
theorem isWord : Header.IsWord w.text where
  ne_nil := w.ne_nil
  chars := by
    intro c hc
    have hword := w.isWordChar_of_mem hc
    have hne : ∀ d, isWordChar d = false → (c != d) = true := fun d hd =>
      bne_iff_ne.2 (ne_of_isWordChar hword hd)
    simp [Header.isHeaderChar, isBlank_of_isWordChar hword, hne '=' (by decide),
      hne ']' (by decide), hne '/' (by decide)]

/-- A word is not reserved. -/
theorem notMem_reservedWords : w.text ∉ Header.reservedWords :=
  fun hmem => w.plain (List.mem_append_left _ hmem)

/-- A word is not the keyword of a kind. -/
theorem ofKeyword?_eq_none : Kind.ofKeyword? w.text = none := by
  refine List.find?_eq_none.2 fun kind hkind => ?_
  simp only [beq_iff_eq]
  intro hlabel
  exact w.plain (List.mem_append_right _ (List.mem_map.2 ⟨kind, hkind, hlabel⟩))

end Word

/-- A word that can stand as the type of a declaration. -/
structure IsType (word : Text) : Prop where
  /-- It is a word. -/
  isWord : Header.IsWord word
  /-- It is not taken for anything else. -/
  plain : word ∉ Header.reservedWords ∧ '<' ∉ word ∧ '(' ∉ word

/-- Every word can be a type. -/
theorem Word.isType (w : Word) : IsType w.text :=
  ⟨w.isWord, w.notMem_reservedWords, w.notMem (by decide), w.notMem (by decide)⟩

/-- The keyword of a container can stand where a type does. -/
theorem isType_label {kind : Kind} (h : kind.isContainer = true) : IsType kind.label := by
  have hall : kind.label.all Header.isHeaderChar = true := by cases kind <;> decide
  refine ⟨⟨?_, List.all_eq_true.1 hall⟩, ?_, ?_, ?_⟩
  · cases kind <;> decide
  · cases kind with
    | function | property | field => cases h
    | _ => decide
  · cases kind <;> decide
  · cases kind <;> decide

/-- The value of a declaration is a word of its header. -/
theorem isWord_of_mem_value {value : Option Word} :
    ∀ word ∈ value.map Word.text, Header.IsWord word := by
  intro word hword
  obtain ⟨v, -, rfl⟩ := Option.map_eq_some_iff.1 hword
  exact v.isWord

/-- No parenthesis closes in a value. -/
theorem closing_notMem_value {value : Option Word} : ∀ word ∈ value.map Word.text, ')' ∉ word := by
  intro word hword
  obtain ⟨v, -, rfl⟩ := Option.map_eq_some_iff.1 hword
  exact v.notMem (by decide)

/-! ## Regular headers -/

/-- The header of a declaration with a type. -/
def Preamble.header (p : Preamble) {type : Text} (htype : IsType type) {name : List Text}
    (hname : ∀ word ∈ name, Header.IsWord word) (hne : name ≠ []) (value : Option Word) :
    Header.Regular where
  visibility := p.visibility
  modifiers := p.modifiers
  type := some type
  name := name
  value := value.map Word.text
  visibility_ne := p.visibility_ne
  modifiers_mem := p.modifiers_mem
  type_isWord _ hword := Option.some_inj.1 hword ▸ htype.isWord
  type_plain _ hword := Option.some_inj.1 hword ▸ htype.plain
  name_isWord := hname
  name_ne_nil := hne
  untyped h := absurd h (by simp)
  value_isWord := isWord_of_mem_value
  value_plain := closing_notMem_value

/-- No visibility at all is not the unspecified one. -/
theorem unstated_ne : (none : Option Visibility) ≠ some .unspecified := by decide

/-- Without modifiers all modifiers are known ones. -/
theorem unmodified_mem : ∀ word ∈ ([] : List Text), word ∈ Header.modifierWords := by simp

/-- The header of a name without a type. -/
def Variable.header (v : Variable) : Header.Regular where
  name := [v.name.text]
  value := v.value.map Word.text
  visibility_ne := unstated_ne
  modifiers_mem := unmodified_mem
  type_isWord := by simp
  type_plain := by simp
  name_isWord word hword := List.mem_singleton.1 hword ▸ v.name.isWord
  name_ne_nil := by simp
  untyped _ := ⟨v.name.text, rfl, v.name.notMem_reservedWords⟩
  value_isWord := isWord_of_mem_value
  value_plain := closing_notMem_value

/-- A value is written the same way in a declaration and in its header. -/
theorem valueText_map {h : Header.Regular} {value : Option Word}
    (hvalue : h.value = value.map Word.text) : h.valueText = printValue value := by
  rw [Header.Regular.valueText, hvalue]
  cases value <;> rfl

/-- The header of a variable is the variable as it is printed. -/
theorem Variable.text_header (v : Variable) : v.header.text = v.print := by
  rw [Header.Regular.text, valueText_map rfl]
  exact congrArg (· ++ printValue v.value) (join_singleton " " v.name.text)

/-- The header of a declaration is its preamble, its type, its name and its value. -/
theorem Preamble.text_header (p : Preamble) {type : Text} (htype : IsType type)
    {name : List Text} (hname : ∀ word ∈ name, Header.IsWord word) (hne : name ≠ [])
    (value : Option Word) :
    (p.header htype hname hne value).text =
      join " " (p.words ++ [type]) ++ ' ' :: join " " name ++ printValue value := by
  have hwords : (p.header htype hname hne value).words = (p.words ++ [type]) ++ name := by
    rw [List.append_assoc]
    rfl
  rw [Header.Regular.text, valueText_map rfl, hwords, join_append _ (by simp) hne]
  simp

/-! ## Signatures -/

/-- The words of a parameter list behind its opening parenthesis. -/
def parameterWords : List Parameter → List Text
  | [] => [[')']]
  | [p] => [p.type.text, p.name.text ++ [')']]
  | p :: q :: ps => p.type.text :: (p.name.text ++ [',']) :: parameterWords (q :: ps)

/-- The words of a name with a parameter list. -/
def signatureWords (name : Word) (parameters : List Parameter) : List Text :=
  (parameterWords parameters).modifyHead fun word => name.text ++ '(' :: word

/-- A parameter list has at least its closing parenthesis. -/
theorem parameterWords_ne_nil (parameters : List Parameter) : parameterWords parameters ≠ [] := by
  unfold parameterWords
  split <;> simp

/-- A name with a parameter list has at least one word. -/
theorem signatureWords_ne_nil (name : Word) (parameters : List Parameter) :
    signatureWords name parameters ≠ [] := by
  simp [signatureWords, List.modifyHead_eq_nil_iff, parameterWords_ne_nil]

/-- The words of a parameter list join to the parameters with commas between them. -/
theorem join_parameterWords :
    (parameters : List Parameter) → join " " (parameterWords parameters) =
      join ", " (parameters.map Parameter.print) ++ [')']
  | [] => by rw [parameterWords, join_singleton, List.map_nil, join_nil, List.nil_append]
  | [p] => by
      rw [parameterWords, join_cons_cons, join_singleton, List.map_singleton, join_singleton,
        Parameter.print]
      simp
  | p :: q :: ps => by
      have hrest := join_parameterWords (q :: ps)
      have hwords : parameterWords (p :: q :: ps) =
          [p.type.text, p.name.text ++ [',']] ++ parameterWords (q :: ps) := rfl
      have hprint : join ", " ((p :: q :: ps).map Parameter.print) =
          p.print ++ ", " ++ join ", " ((q :: ps).map Parameter.print) :=
        join_cons_cons _ _ _ _
      rw [hwords, join_append _ (by simp) (parameterWords_ne_nil _), hrest, join_cons_cons,
        join_singleton, hprint, Parameter.print]
      simp

/-- The words of a signature join to the signature. -/
theorem join_signatureWords (name : Word) (parameters : List Parameter) :
    join " " (signatureWords name parameters) = signature name parameters := by
  have hjoin := join_parameterWords parameters
  obtain ⟨word, words', hwords⟩ := List.exists_cons_of_ne_nil (parameterWords_ne_nil parameters)
  rw [hwords] at hjoin
  rw [signatureWords, signature, hwords, List.modifyHead_cons, List.append_assoc,
    List.cons_append, ← hjoin]
  cases words' with
  | nil => rw [join_singleton, join_singleton]
  | cons next rest =>
      rw [join_cons_cons, join_cons_cons]
      simp

/-- A word stays one with further characters of words behind it. -/
theorem isWord_append {a b : Text} (ha : Header.IsWord a)
    (hb : ∀ c ∈ b, Header.isHeaderChar c = true) : Header.IsWord (a ++ b) where
  ne_nil := by simp [ha.ne_nil]
  chars c hc := (List.mem_append.1 hc).elim (ha.chars c) (hb c)

/-- The words of a parameter list are words of a header. -/
theorem isWord_of_mem_parameterWords {word : Text} :
    {parameters : List Parameter} → word ∈ parameterWords parameters → Header.IsWord word
  | [], h => by
      rw [parameterWords, List.mem_singleton] at h
      subst h
      exact ⟨by decide, by simp; decide⟩
  | [p], h => by
      rw [parameterWords, List.mem_pair] at h
      rcases h with rfl | rfl
      · exact p.type.isWord
      · exact isWord_append p.name.isWord (by simp; decide)
  | p :: q :: ps, h => by
      rw [parameterWords, List.mem_cons, List.mem_cons] at h
      rcases h with rfl | rfl | h
      · exact p.type.isWord
      · exact isWord_append p.name.isWord (by simp; decide)
      · exact isWord_of_mem_parameterWords h

/-- The words of a signature are words of a header. -/
theorem isWord_of_mem_signatureWords {name : Word} {parameters : List Parameter} {word : Text}
    (h : word ∈ signatureWords name parameters) : Header.IsWord word := by
  obtain ⟨first, rest, hwords⟩ := List.exists_cons_of_ne_nil (parameterWords_ne_nil parameters)
  have hall : ∀ w ∈ first :: rest, Header.IsWord w := by
    intro w hw
    exact isWord_of_mem_parameterWords (hwords ▸ hw)
  rw [signatureWords, hwords, List.modifyHead_cons, List.mem_cons] at h
  rcases h with rfl | h
  · refine isWord_append name.isWord fun c hc => ?_
    rcases List.mem_cons.1 hc with rfl | hc
    · decide
    · exact (hall first List.mem_cons_self).chars c hc
  · exact hall word (List.mem_cons_of_mem first h)

/-! ## What is declared -/

namespace Head

variable (head : Head)

/-- The name of a block has at least one word. -/
theorem nameWords_ne_nil : head.nameWords ≠ [] := by
  unfold nameWords
  split <;> simp

/-- The words of a block's name are words of a header. -/
theorem isWord_of_mem_nameWords : ∀ word ∈ head.nameWords, Header.IsWord word := by
  have hcolon : Header.IsWord [':'] := ⟨by decide, by simp; decide⟩
  unfold nameWords
  split
  · exact List.forall_mem_singleton.2 head.name.isWord
  · rename_i base _
    simp only [List.forall_mem_cons, List.not_mem_nil, false_imp_iff, implies_true, and_true]
    exact ⟨head.name.isWord, hcolon, base.isWord⟩

/-- The words of a block's name are split into the name and the base. -/
theorem splitBases_nameWords :
    Header.splitBases (join " " head.nameWords) = (head.name.text, valueText head.base) := by
  have hcolon : ':' ∉ head.name.text := head.name.notMem (by decide)
  unfold nameWords
  split
  · rename_i hbase
    rw [join_singleton, Header.splitBases_of_notMem hcolon, hbase]
    rfl
  · rename_i base hbase
    rw [Header.splitBases_join head.name.isWord hcolon base.isWord, hbase]
    rfl

end Head

/-- Whether a declaration with a body is a function or a property, its visibility is that of a
variable. -/
theorem implied_functionOrProperty (name : Text) (parent : Option Kind) :
    Visibility.implied (Header.functionOrProperty name) parent =
      Visibility.implied .field parent := by
  unfold Header.functionOrProperty
  split <;> simp [Visibility.implied]

section reading

variable (context : HeaderContext) {before after : Text}
  (hbefore : ∀ c ∈ before, isBlank c = true) (hafter : ∀ c ∈ after, isBlank c = true)

include hbefore hafter

/-- A name without a type, in front of anything but a block. -/
theorem Variable.read (v : Variable) (hboundary : context.boundary ≠ .opening) :
    Header.read context (before ++ v.print ++ after) =
      .declaration
        { name := v.name.text
          kind := .field
          visibility := Visibility.implied .field context.parent
          defaultValue := valueText v.value }
        false := by
  have hsplit : Header.splitBases (join " " v.header.name) = (v.name.text, []) := by
    rw [show v.header.name = [v.name.text] from rfl, join_singleton]
    exact Header.splitBases_of_notMem (v.name.notMem (by decide))
  have hkind : v.header.parts.kind = .field :=
    v.header.kind_of_not_keyword fun word hword => by simp [header] at hword
  rw [← v.text_header, v.header.read_text context hbefore hafter,
    v.header.declare_parts context hsplit v.name.ne_nil, hkind]
  simp [hboundary, header, Header.Regular.typeForm, valueText]

/-- A single name with a type, in front of anything but a block. -/
theorem read_typed (p : Preamble) (type : Word) (v : Variable)
    (hboundary : context.boundary ≠ .opening) :
    Header.read context
        (before ++ (join " " (p.words ++ [type.text]) ++ ' ' :: v.print) ++ after) =
      .declaration
        { p.element context.parent .field type.text v.name.text with
          defaultValue := valueText v.value
          summary := [] }
        false := by
  let h := p.header type.isType (List.forall_mem_singleton.2 v.name.isWord) (by simp) v.value
  have htext : h.text = join " " (p.words ++ [type.text]) ++ ' ' :: v.print := by
    rw [p.text_header, join_singleton, List.append_assoc]
    rfl
  have hsplit : Header.splitBases (join " " h.name) = (v.name.text, []) := by
    rw [show h.name = [v.name.text] from rfl, join_singleton]
    exact Header.splitBases_of_notMem (v.name.notMem (by decide))
  have hkind : h.parts.kind = .field :=
    h.kind_of_not_keyword fun word hword => Option.some_inj.1 hword ▸ type.ofKeyword?_eq_none
  rw [← htext, h.read_text context hbefore hafter, h.declare_parts context hsplit v.name.ne_nil,
    hkind]
  simp [hboundary, h, Preamble.header, Preamble.element, Header.Regular.typeForm, valueText]

/-- The head of a container or enum. -/
theorem Head.read (head : Head) {kind : Kind} (hkind : kind.isContainer = true) :
    Header.read context
        (before ++ (join " " (head.preamble.words ++ [kind.label]) ++
          ' ' :: join " " head.nameWords) ++ after) =
      .declaration { head.element context.parent kind with summary := [] } false := by
  let h := head.preamble.header (isType_label hkind) head.isWord_of_mem_nameWords
    head.nameWords_ne_nil none
  have htext : h.text = join " " (head.preamble.words ++ [kind.label]) ++
      ' ' :: join " " head.nameWords := by
    rw [head.preamble.text_header]
    exact List.append_nil _
  have hne : kind ≠ .field := by
    rintro rfl
    cases hkind
  have hparts : h.parts.kind = kind := h.kind_of_container hkind rfl
  rw [← htext, h.read_text context hbefore hafter,
    h.declare_parts context head.splitBases_nameWords head.name.ne_nil, hparts]
  simp [hne, h, Preamble.header, Head.element, Preamble.element, Header.Regular.typeForm]

/-- A name with a type and a body. -/
theorem read_withBody (p : Preamble) (type : Word) {name : List Text}
    (hname : ∀ word ∈ name, Header.IsWord word) (hne : name ≠ []) (hcolon : ':' ∉ join " " name)
    (hboundary : context.boundary = .opening) :
    Header.read context
        (before ++ (join " " (p.words ++ [type.text]) ++ ' ' :: join " " name) ++ after) =
      .declaration
        { p.element context.parent (Header.functionOrProperty (join " " name)) type.text
            (join " " name) with
          summary := [] }
        true := by
  let h := p.header type.isType hname hne none
  have htext : h.text = join " " (p.words ++ [type.text]) ++ ' ' :: join " " name := by
    rw [p.text_header]
    exact List.append_nil _
  have hkind : h.parts.kind = .field :=
    h.kind_of_not_keyword fun word hword => Option.some_inj.1 hword ▸ type.ofKeyword?_eq_none
  have hjoin : join " " name ≠ [] := join_ne_nil (fun word hword => (hname word hword).plain) hne
  rw [← htext, h.read_text context hbefore hafter,
    h.declare_parts context (Header.splitBases_of_notMem hcolon) hjoin, hkind]
  simp [hboundary, h, Preamble.header, Preamble.element, Header.Regular.typeForm,
    implied_functionOrProperty]

end reading

end DeclAtlas.Declaration
