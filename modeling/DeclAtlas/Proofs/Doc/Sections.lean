import Mathlib
import DeclAtlas.Proofs.Doc.Reading
import DeclAtlas.Proofs.Text.Words

/-!
# The sections of documentation

**Theorem** (`DocComment.ofText_sections`): documentation in any written form of a forest has the
sections of that forest.  If reading fails at any point, all of it is the summary, and nothing is
kept of the sections in front of that point.

Where reading fails is said without the reader (`Fails`): a text or an attribute that cannot be
unescaped, a passage that is not ended, or a tag that does not close the innermost open element.
-/

namespace DeclAtlas

namespace DocComment

open Markup

/-! ## Well-formed documentation -/

/-- Documentation is read inside an element that holds all of it. -/
theorem ofMarkup?_eq (t : Text) :
    ofMarkup? t = (continue? {} ("<doc>" ++ t ++ "</doc>")).map finish := by
  unfold ofMarkup? continue?
  cases events? ("<doc>" ++ t ++ "</doc>") with
  | none => rfl
  | some events => simp [Option.map_eq_bind]

/-- Documentation is read as the content of one element. -/
theorem written_doc {forest : List Node} {t : Text} (h : Written forest t) :
    Written [.element "doc" [] forest] ("<doc>" ++ t ++ "</doc>") := by
  have hname : IsName "doc" := by decide
  have hblanks : Blanks [] := fun _ hc => absurd hc List.not_mem_nil
  have hdoc := Written.element hname (.nil hblanks) h hblanks .nil
  simpa using hdoc

/-- The element around all is no section. -/
theorem finish_absorb {name : Text} (hname : Heading.ofName? name = none) (forest : List Node) :
    finish (Reader.absorb {} [.element name [] forest]) = ofForest forest := by
  have hcurrent : ({} : Reader).current = .loose := rfl
  simp [finish, Reader.absorb, ofForest, proseOfAll, prose, paramsOfAll, paramsOf, hcurrent, hname,
    Section.heading, Section.extend]

/-- Every written form of a forest is read as the sections of the forest. -/
theorem ofMarkup?_of_written {forest : List Node} {t : Text} (h : Written forest t) :
    ofMarkup? t = some (ofForest forest) := by
  have hrange : ({} : Reader).InRange := by
    rintro index hindex
    cases hindex
  have hread := continue?_written (written_doc h) hrange []
  rw [List.append_nil, continue?_nil] at hread
  rw [ofMarkup?_eq, hread, Option.map_some, finish_absorb (by decide)]

/-- The test for blanks in front makes no difference: blanks are markup, of an empty summary. -/
theorem ofText_eq (t : Text) : ofText t = (ofMarkup? t).getD { summary := Text.collapse t } := by
  rw [ofText]
  split_ifs with hblank
  · have hall : ∀ c ∈ t, Text.isBlank c = true := List.all_eq_true.1 hblank
    have hnot {c : Char} (hc : Text.isBlank c = false) : c ∉ t := by
      intro hmem
      rw [hall c hmem] at hc
      cases hc
    have hwritten : Written [.text t] t := by
      have hnil := Written.text (hnot rfl) (unescape?_of_notMem (hnot rfl)) .nil
      rwa [List.append_nil] at hnil
    have hwords : Text.words t = [] := by
      rw [← List.append_nil t, Text.words_blanks_append hall, Text.words_nil]
    have hcollapse : Text.collapse t = [] := by
      rw [Text.collapse, hwords]
      rfl
    have hempty : Text.collapse [] = [] := rfl
    rw [ofMarkup?_of_written hwritten]
    simp [ofForest, proseOfAll, prose, paramsOfAll, paramsOf, Text.isAllBlank, hcollapse, hempty]
  · rfl

/-- Documentation that is well-formed markup is split into its sections. -/
theorem ofText_of_written {forest : List Node} {t : Text} (h : Written forest t) :
    ofText t = ofForest forest := by
  rw [ofText_eq, ofMarkup?_of_written h]
  rfl

/-! ## Failures -/

/-- The events that cannot be read while the elements of the given names are open. -/
inductive Refused (opened : List Text) : Event → Prop where
  | text {t : Text} (h : unescape? t = none) : Refused opened (.text t)
  /-- A tag that does not close the innermost open element. -/
  | closing {name : Text} (h : opened.head? ≠ some name) : Refused opened (.closing name)
  /-- The description of a parameter whose name cannot be read. -/
  | param {tag : Tag} (hname : tag.name = "param".toList) (h : attribute? tag "name" = none) :
      Refused opened (.opening tag)
  /-- A reference that cannot be read. -/
  | reference {tag : Tag} {key : Text} (hkey : referenceKey? tag.name = some key)
      (h : attribute? tag key = none) : Refused opened (.empty tag)

/-- The open elements behind an event. -/
def openBehind (opened : List Text) : Event → List Text
  | .opening tag => tag.name :: opened
  | .closing _ => opened.tail
  | _ => opened

/-- The texts in which reading fails at some point, while the elements of the given names are
open. -/
inductive Fails : List Text → Text → Prop where
  /-- The text up to the next passage cannot be read. -/
  | text {opened : List Text} {front rest : Text} (hfront : '<' ∉ front)
      (h : unescape? front = none) (hrest : rest = [] ∨ rest.head? = some '<') :
      Fails opened (front ++ rest)
  /-- The next passage cannot be read. -/
  | passage {opened : List Text} {front passage : Text} (hfront : '<' ∉ front)
      (hne : passage ≠ []) (h : readPassage? passage = none) :
      Fails opened (front ++ '<' :: passage)
  | event {opened : List Text} {front passage rest : Text} {event : Event} (hfront : '<' ∉ front)
      (hread : readPassage? passage = some (event, rest)) (h : Refused opened event) :
      Fails opened (front ++ '<' :: passage)
  /-- Reading fails behind the next passage. -/
  | behind {opened : List Text} {front passage rest : Text} {event : Event}
      (hfront : '<' ∉ front) (hread : readPassage? passage = some (event, rest))
      (h : Fails (openBehind opened event) rest) : Fails opened (front ++ '<' :: passage)

/-- The names of the open elements. -/
def Reader.openNames (reader : Reader) : List Text :=
  reader.openElements.map Prod.fst

/-- Text opens and closes no elements. -/
theorem Reader.openNames_addText (reader : Reader) (t : Text) :
    (reader.addText t).openNames = reader.openNames := by
  rw [reader.addText_eq]
  rfl

/-- An opening tag fails only if it describes a parameter whose name cannot be read. -/
theorem readEvent?_opening_eq_none {reader : Reader} {tag : Tag}
    (h : readEvent? reader (.opening tag) = none) :
    tag.name = "param".toList ∧ attribute? tag "name" = none := by
  rw [readEvent?] at h
  split_ifs at h with _ _ _ hparam
  exact ⟨hparam, Option.map_eq_none_iff.1 h⟩

/-- The events that fail are those that are refused. -/
theorem readEvent?_eq_none_iff (reader : Reader) (event : Event) :
    readEvent? reader event = none ↔ Refused reader.openNames event := by
  constructor
  · intro h
    cases event with
    | text t => exact .text (Option.map_eq_none_iff.1 h)
    | verbatim t => cases h
    | aside => cases h
    | opening tag =>
        obtain ⟨hname, hattribute⟩ := readEvent?_opening_eq_none h
        exact .param hname hattribute
    | closing name =>
        refine .closing fun hhead => ?_
        rw [readEvent?] at h
        cases hopened : reader.openElements with
        | nil => simp [Reader.openNames, hopened] at hhead
        | cons opened outer =>
            obtain rfl : opened.1 = name := by simpa [Reader.openNames, hopened] using hhead
            rw [hopened] at h
            simp at h
    | empty tag =>
        rw [readEvent?] at h
        cases hkey : referenceKey? tag.name with
        | none =>
            rw [hkey] at h
            cases h
        | some key =>
            rw [hkey] at h
            exact .reference hkey (Option.map_eq_none_iff.1 h)
  · intro h
    cases h with
    | text h => rw [readEvent?, h, Option.map_none]
    | closing h =>
        rw [readEvent?]
        cases hopened : reader.openElements with
        | nil => rfl
        | cons opened outer =>
            rw [Reader.openNames, hopened] at h
            exact if_neg fun heq => h (congrArg some heq.symm)
    | param hname h =>
        rw [readEvent?, hname, h]
        rfl
    | reference hkey h =>
        rw [readEvent?, hkey]
        simp only [h, Option.map_none]

/-- The open elements behind an event that is read. -/
theorem openNames_of_readEvent? {reader reader' : Reader} {event : Event}
    (h : readEvent? reader event = some reader') :
    reader'.openNames = openBehind reader.openNames event := by
  cases event with
  | text t =>
      obtain ⟨x, -, rfl⟩ := Option.map_eq_some_iff.1 h
      exact reader.openNames_addText x
  | verbatim t =>
      cases h
      exact reader.openNames_addText t
  | aside =>
      cases h
      rfl
  | opening tag =>
      rw [readEvent?] at h
      split_ifs at h
      · cases h
        rfl
      · cases h
        rfl
      · cases h
        rfl
      · obtain ⟨param, -, rfl⟩ := Option.map_eq_some_iff.1 h
        rfl
      · cases h
        rfl
  | closing name =>
      rw [readEvent?] at h
      cases hopened : reader.openElements with
      | nil =>
          rw [hopened] at h
          cases h
      | cons opened outer =>
          rw [hopened] at h
          dsimp only at h
          split_ifs at h
          cases h
          rw [openBehind, Reader.openNames, Reader.openNames, hopened]
          rfl
  | empty tag =>
      rw [readEvent?] at h
      split at h
      · cases h
        rfl
      · obtain ⟨reference, -, rfl⟩ := Option.map_eq_some_iff.1 h
        cases reference with
        | none => rfl
        | some reference => exact reader.openNames_addText _

/-- A failure ends reading, whatever has been read before. -/
theorem Fails.continue?_eq_none {opened : List Text} {t : Text} (h : Fails opened t)
    {reader : Reader} (hopened : reader.openNames = opened) : continue? reader t = none := by
  induction h generalizing reader with
  | @text opened front rest hfront h hrest =>
      rcases rest with _ | ⟨c, _ | ⟨d, rest⟩⟩
      · rw [List.append_nil, continue?_of_notMem reader hfront, h, Option.map_none]
      · obtain rfl : c = '<' := by simpa using hrest
        rw [continue?_append_lone reader hfront, h, Option.map_none]
      · obtain rfl : c = '<' := by simpa using hrest
        cases hread : readPassage? (d :: rest) with
        | none =>
            exact continue?_of_readPassage?_eq_none reader hfront (List.cons_ne_nil d rest) hread
        | some read =>
            rw [continue?_passage reader hfront hread, h]
            rfl
  | passage hfront hne h => exact continue?_of_readPassage?_eq_none reader hfront hne h
  | @event opened front passage rest event hfront hread h =>
      rw [continue?_passage reader hfront hread]
      cases unescape? front with
      | none => rfl
      | some x =>
          have hrefused : readEvent? (reader.addText x) event = none := by
            rw [readEvent?_eq_none_iff, Reader.openNames_addText, hopened]
            exact h
          simp only [Option.bind_some, hrefused, Option.bind_none]
  | @behind opened front passage rest event hfront hread _ ih =>
      rw [continue?_passage reader hfront hread]
      cases unescape? front with
      | none => rfl
      | some x =>
          rw [Option.bind_some]
          cases hevent : readEvent? (reader.addText x) event with
          | none => rfl
          | some reader' =>
              refine ih ?_
              rw [openNames_of_readEvent? hevent, Reader.openNames_addText, hopened]

/-- If a text is not read, reading fails at some point of it. -/
theorem fails_of_continue?_eq_none {reader : Reader} {t : Text} (h : continue? reader t = none) :
    Fails reader.openNames t := by
  induction hlength : t.length using Nat.strong_induction_on generalizing reader t with
  | _ length ih =>
      by_cases hmem : '<' ∈ t
      · obtain ⟨front, passage, rfl, hfront⟩ := List.eq_append_cons_of_mem hmem
        by_cases hne : passage = []
        · subst hne
          rw [continue?_append_lone reader hfront, Option.map_eq_none_iff] at h
          exact .text hfront h (.inr rfl)
        · cases hread : readPassage? passage with
          | none => exact .passage hfront hne hread
          | some read =>
              obtain ⟨event, rest⟩ := read
              rw [continue?_passage reader hfront hread] at h
              cases hx : unescape? front with
              | none => exact .text hfront hx (.inr rfl)
              | some x =>
                  rw [hx, Option.bind_some] at h
                  rw [← reader.openNames_addText x]
                  cases hevent : readEvent? (reader.addText x) event with
                  | none =>
                      exact .event hfront hread ((readEvent?_eq_none_iff _ _).1 hevent)
                  | some reader' =>
                      rw [hevent, Option.bind_some] at h
                      have hle := length_of_readPassage? hread
                      refine .behind hfront hread ?_
                      rw [← openNames_of_readEvent? hevent]
                      refine ih rest.length ?_ h rfl
                      rw [← hlength, List.length_append, List.length_cons]
                      omega
      · rw [continue?_of_notMem reader hmem, Option.map_eq_none_iff] at h
        rw [← List.append_nil t]
        exact .text hmem h (.inl rfl)

/-- **When reading fails**: a text is not read exactly if reading fails at some point of it. -/
theorem continue?_eq_none_iff (reader : Reader) (t : Text) :
    continue? reader t = none ↔ Fails reader.openNames t :=
  ⟨fails_of_continue?_eq_none, fun h => h.continue?_eq_none rfl⟩

/-- **The sections of documentation.**  Documentation that is well-formed markup has the sections of
its forest, in whatever way it is written.  Documentation in which reading fails at some point is a
summary as a whole; and only then it is not read as markup. -/
theorem ofText_sections :
    (∀ (forest : List Node) (t : Text), Written forest t → ofText t = ofForest forest) ∧
      ∀ t : Text,
        (ofMarkup? t = none ↔ Fails [] ("<doc>" ++ t ++ "</doc>")) ∧
          (Fails [] ("<doc>" ++ t ++ "</doc>") → ofText t = { summary := Text.collapse t }) := by
  have hnone (t : Text) : ofMarkup? t = none ↔ Fails [] ("<doc>" ++ t ++ "</doc>") := by
    rw [ofMarkup?_eq, Option.map_eq_none_iff]
    exact continue?_eq_none_iff {} _
  refine ⟨fun forest t h => ofText_of_written h, fun t => ⟨hnone t, fun hfails => ?_⟩⟩
  rw [ofText_eq, (hnone t).2 hfails]
  rfl

/-! ## Nested sections -/

/-- A summary with a reference in front of it and the description of a parameter inside. -/
def nestedForest : List Node :=
  [.text "Uses ", .empty "see" [("cref".toList, "T:Box".toList)],
    .element "summary" []
      [.text "A ", .element "b" [] [.text "fast"],
        .element "param" [("name".toList, "n".toList)] [.text "a & b"], .verbatim " box"]]

/-- The forest in one of its written forms. -/
def nestedText : Text :=
  "Uses <see cref='T:Box'/><summary>A <b>fast</b><param name = \"n\">a &amp; b</param>" ++
    "<![CDATA[ box]]></summary >"

/-- No attributes are written as nothing. -/
theorem writtenAttributes_nil : WrittenAttributes [] [] :=
  .nil fun _ hc => absurd hc List.not_mem_nil

/-- The nested text is a written form of the nested forest. -/
theorem written_nestedForest : Written nestedForest nestedText := by
  have hnone : Blanks [] := by decide
  have hspace : Blanks " " := by decide
  have hcref : WrittenAttributes [("cref".toList, "T:Box".toList)]
      (" ".toList ++ ("cref".toList ++ ([] ++ '=' ::
        ([] ++ '\'' :: ("T:Box".toList ++ '\'' :: []))))) :=
    .cons hspace (by decide) (by decide) hnone hnone (.inr rfl) (by decide) (by decide)
      writtenAttributes_nil
  have hname : WrittenAttributes [("name".toList, "n".toList)]
      (" ".toList ++ ("name".toList ++ (" ".toList ++ '=' ::
        (" ".toList ++ '"' :: ("n".toList ++ '"' :: []))))) :=
    .cons hspace (by decide) (by decide) hspace hspace (.inl rfl) (by decide) (by decide)
      writtenAttributes_nil
  have hfast : Written [.text "fast"] ("fast".toList ++ []) := .text (by decide) (by decide) .nil
  have hparam : Written [.text "a & b"] ("a &amp; b".toList ++ []) :=
    .text (by decide) (by decide) .nil
  have hbox : Written [.verbatim " box"] _ := .verbatim (by decide) .nil
  have hsummary : Written
      [.text "A ", .element "b" [] [.text "fast"],
        .element "param" [("name".toList, "n".toList)] [.text "a & b"], .verbatim " box"]
      ("A ".toList ++ _) :=
    .text (by decide) (by decide) (.element (by decide) writtenAttributes_nil hfast hnone
      (.element (by decide) hname hparam hnone hbox))
  have hall : Written nestedForest ("Uses ".toList ++ _) :=
    .text (by decide) (by decide) (.empty (by decide) hcref
      (.element (by decide) writtenAttributes_nil hsummary hspace .nil))
  convert hall using 1
  decide +kernel

/-- The parameter inside the summary is a section of its own. -/
theorem ofForest_nestedForest :
    ofForest nestedForest =
      { summary := "A fast box", params := [("n".toList, "a & b".toList)] } := by
  decide +kernel

/-- Documentation with a bare ampersand behind its summary. -/
def bareText : Text :=
  "<summary>Adds.</summary> a & b"

/-- Reading fails at the bare ampersand. -/
theorem fails_bareText : Fails [] ("<doc>" ++ bareText ++ "</doc>") := by
  have hdoc : readPassage? "doc><summary>Adds.</summary> a & b</doc>" =
      some (Event.opening { name := "doc", attributes := [] },
        [] ++ '<' :: "summary>Adds.</summary> a & b</doc>".toList) := by
    decide +kernel
  have hsummary : readPassage? "summary>Adds.</summary> a & b</doc>" =
      some (Event.opening { name := "summary", attributes := [] },
        "Adds.".toList ++ '<' :: "/summary> a & b</doc>".toList) := by
    decide +kernel
  have hclosing : readPassage? "/summary> a & b</doc>" =
      some (Event.closing "summary", " a & b".toList ++ "</doc>".toList) := by
    decide +kernel
  have hbehind : Fails ["doc".toList] (" a & b".toList ++ "</doc>".toList) :=
    .text (by decide) (by decide) (.inr (by decide))
  have hall : Fails [] ([] ++ '<' :: "doc><summary>Adds.</summary> a & b</doc>".toList) :=
    .behind (by decide) hdoc (.behind (by decide) hsummary (.behind (by decide) hclosing hbehind))
  convert hall using 1
  decide +kernel

/-- The nested text is split into sections, and the text with the ampersand is all summary. -/
theorem ofText_sections_nested :
    ofText nestedText =
        { summary := "A fast box", params := [("n".toList, "a & b".toList)] } ∧
      ofText bareText = { summary := "<summary>Adds.</summary> a & b" } := by
  have hcollapse : Text.collapse bareText = "<summary>Adds.</summary> a & b".toList := by
    decide +kernel
  constructor
  · rw [ofText_sections.1 nestedForest nestedText written_nestedForest, ofForest_nestedForest]
  · rw [(ofText_sections.2 bareText).2 fails_bareText, hcollapse]

/-- The letter and colon in front are left out of the name of a parameter as well. -/
theorem ofText_paramref_kind :
    Written [.empty "paramref" [("name".toList, "T:x".toList)]] "<paramref name=\"T:x\"/>" ∧
      ofText "<paramref name=\"T:x\"/>" = { summary := "x" } ∧
      ofText "<paramref name=\"T:x\"/>" ≠ { summary := "T:x" } := by
  have hname : WrittenAttributes [("name".toList, "T:x".toList)]
      (" ".toList ++ ("name".toList ++ ([] ++ '=' ::
        ([] ++ '"' :: ("T:x".toList ++ '"' :: []))))) :=
    .cons (by decide) (by decide) (by decide) (by decide) (by decide) (.inl rfl) (by decide)
      (by decide) writtenAttributes_nil
  have hwritten : Written [.empty "paramref" [("name".toList, "T:x".toList)]]
      "<paramref name=\"T:x\"/>" := by
    have hempty : Written [.empty "paramref" [("name".toList, "T:x".toList)]] _ :=
      .empty (by decide) hname .nil
    convert hempty using 1
    decide +kernel
  have hforest : ofForest [.empty "paramref" [("name".toList, "T:x".toList)]] =
      { summary := "x" } := by
    decide +kernel
  have htext : ofText "<paramref name=\"T:x\"/>" = { summary := "x" } :=
    (ofText_of_written hwritten).trans hforest
  refine ⟨hwritten, htext, ?_⟩
  rw [htext]
  decide

end DocComment

end DeclAtlas
