import Mathlib
import DeclAtlas.Doc.Comment
import DeclAtlas.Proofs.Markup.Entity
import DeclAtlas.Proofs.Markup.Forest

/-!
# Reading documentation as a forest

Documentation is read event by event, with a stack of open elements and numbers of parameters on it.
On well-formed markup that is the same as a recursion over the forest, in which there is no stack
and there are no numbers: text belongs to the innermost section around it (`prose`), and a parameter
has the text that is in no section inside it (`own`).

The two are compared for every state of the reader and every continuation of the text
(`continue?_written`): behind a forest the reader has absorbed it (`Reader.absorb`) and has the same
open elements as before.
-/

namespace DeclAtlas

namespace DocComment

open Markup

/-! ## The sections of a forest -/

/-- The kinds of sections. -/
inductive Heading where
  /-- Outside all sections. -/
  | loose
  | summary
  | returns
  | remarks
  | param
  deriving DecidableEq, Repr

/-- The kind of section that an element is. -/
def Heading.ofName? (name : Text) : Option Heading :=
  if name = "summary".toList then some .summary
  else if name = "returns".toList then some .returns
  else if name = "remarks".toList then some .remarks
  else if name = "param".toList then some .param
  else none

/-- A reference without the letter and colon that say what kind of thing it refers to. -/
def withoutKind : Text → Text
  | c :: ':' :: name => if c.utf8Size = 1 ∧ c ≠ ':' then name else c :: ':' :: name
  | t => t

/-- The text that an empty element stands for. -/
def referenceText (name : Text) (attributes : List (Text × Text)) : Text :=
  if name = "see".toList ∨ name = "seealso".toList then
    withoutKind ((attributes.lookup "cref".toList).getD [])
  else if name = "paramref".toList ∨ name = "typeparamref".toList then
    withoutKind ((attributes.lookup "name".toList).getD [])
  else []

mutual

/-- The text in a node that belongs to sections of the kind `place`; the node itself stands in one
of the kind `here`. -/
def prose (place here : Heading) : Node → Text
  | .text t | .verbatim t => if here = place then t else []
  | .empty name attributes => if here = place then referenceText name attributes else []
  | .element name _ children => proseOfAll place ((Heading.ofName? name).getD here) children

/-- The text in a forest that belongs to sections of a kind. -/
def proseOfAll (place here : Heading) : List Node → Text
  | [] => []
  | node :: forest => prose place here node ++ proseOfAll place here forest

end

mutual

/-- The text in a node that is not in a section inside it. -/
def own : Node → Text
  | .text t | .verbatim t => t
  | .empty name attributes => referenceText name attributes
  | .element name _ children => if (Heading.ofName? name).isSome then [] else ownOfAll children

/-- The text in a forest that is not in a section inside it. -/
def ownOfAll : List Node → Text
  | [] => []
  | node :: forest => own node ++ ownOfAll forest

end

mutual

/-- The parameters that a node describes, in the order in which their elements begin. -/
def paramsOf : Node → List (Text × Text)
  | .element name attributes children =>
    if Heading.ofName? name = some .param then
      ((attributes.lookup "name".toList).getD [], ownOfAll children) :: paramsOfAll children
    else paramsOfAll children
  | _ => []

/-- The parameters that a forest describes. -/
def paramsOfAll : List Node → List (Text × Text)
  | [] => []
  | node :: forest => paramsOf node ++ paramsOfAll forest

end

/-- The sections of a forest. -/
def ofForest (forest : List Node) : DocComment :=
  let summary := proseOfAll .summary .loose forest
  let loose := proseOfAll .loose .loose forest
  { summary := Text.collapse (if Text.isAllBlank summary then loose else summary)
    returns := Text.collapse (proseOfAll .returns .loose forest)
    remarks := Text.collapse (proseOfAll .remarks .loose forest)
    params := (paramsOfAll forest).map fun (name, t) => (name, Text.collapse t) }

/-! ## References -/

/-- A text of one byte is one character of one byte. -/
theorem byteSize_eq_one_iff {t : Text} :
    Text.byteSize t = 1 ↔ ∃ c : Char, t = [c] ∧ c.utf8Size = 1 := by
  rcases t with _ | ⟨c, _ | ⟨d, t⟩⟩
  · simp [Text.byteSize]
  · simp [Text.byteSize]
  · have hc := c.utf8Size_pos
    have hd := d.utf8Size_pos
    simp only [Text.byteSize, List.foldr_cons, List.cons.injEq, reduceCtorEq, and_false, false_and,
      exists_false, iff_false]
    omega

/-- A character of one byte and a colon in front of a name are dropped. -/
theorem withoutKind_of_one {c : Char} (hsize : c.utf8Size = 1) (hc : c ≠ ':') (name : Text) :
    withoutKind (c :: ':' :: name) = name :=
  if_pos ⟨hsize, hc⟩

/-- Any other reference is left as it is. -/
theorem withoutKind_of_not {t : Text}
    (h : ¬ ∃ c name, t = c :: ':' :: name ∧ c.utf8Size = 1 ∧ c ≠ ':') : withoutKind t = t := by
  unfold withoutKind
  split
  · rename_i c name
    exact if_neg fun hc => h ⟨c, name, rfl, hc⟩
  · rfl

/-- The reader names a reference by what is behind its kind. -/
theorem referenceName_eq (reference : Text) : referenceName reference = withoutKind reference := by
  by_cases h : ∃ c name, reference = c :: ':' :: name ∧ c.utf8Size = 1 ∧ c ≠ ':'
  · obtain ⟨c, name, rfl, hsize, hc⟩ := h
    have hcut : Text.cutAt? ':' (c :: ':' :: name) = some ([c], name) :=
      Text.cutAt?_append name (mt List.mem_singleton.1 (Ne.symm hc))
    rw [withoutKind_of_one hsize hc, referenceName, hcut]
    exact if_pos (byteSize_eq_one_iff.2 ⟨c, rfl, hsize⟩)
  · rw [withoutKind_of_not h, referenceName]
    cases hcut : Text.cutAt? ':' reference with
    | none => rfl
    | some cut =>
        obtain ⟨front, name⟩ := cut
        refine if_neg fun hone => h ?_
        obtain ⟨c, rfl, hsize⟩ := byteSize_eq_one_iff.1 hone
        obtain ⟨rfl, hc⟩ := Text.cutAt?_eq_some_iff.1 hcut
        exact ⟨c, name, rfl, hsize, fun heq => hc (heq ▸ List.mem_singleton_self c)⟩

/-! ## The state of the reader -/

/-- The kind of a section of the reader. -/
def Section.heading : Section → Heading
  | .loose => .loose
  | .summary => .summary
  | .returns => .returns
  | .remarks => .remarks
  | .param _ => .param

/-- The parameters with text added to the one that a section describes, if it describes one. -/
def Section.extend (place : Section) (t : Text) (params : List (Text × Text)) :
    List (Text × Text) :=
  match place with
  | .param index => params.modify index fun (name, description) => (name, description ++ t)
  | _ => params

/-- Adding no text changes no parameter. -/
theorem Section.extend_nil (place : Section) (params : List (Text × Text)) :
    place.extend [] params = params := by
  cases place with
  | param index =>
      simp only [Section.extend, List.append_nil]
      exact List.modify_id index params
  | _ => rfl

/-- Text may be added to a parameter in parts. -/
theorem Section.extend_append (place : Section) (a b : Text) (params : List (Text × Text)) :
    place.extend (a ++ b) params = place.extend b (place.extend a params) := by
  cases place with
  | param index =>
      simp only [Section.extend, List.modify_modify_eq, Function.comp_def, List.append_assoc]
  | _ => rfl

/-- Whether a section is among the parameters, if it is one of them. -/
def Section.InRange (place : Section) (params : List (Text × Text)) : Prop :=
  ∀ index, place = .param index → index < params.length

/-- A change of one item does not see the items behind the list. -/
theorem modify_append_of_lt {α : Type} (f : α → α) {items : List α} {index : Nat}
    (h : index < items.length) (more : List α) :
    (items ++ more).modify index f = items.modify index f ++ more := by
  induction items generalizing index with
  | nil => exact absurd h (Nat.not_lt_zero index)
  | cons item items ih =>
      cases index with
      | zero => rfl
      | succ index =>
          rw [List.cons_append, List.modify_succ_cons, List.modify_succ_cons,
            ih (Nat.lt_of_succ_lt_succ h), List.cons_append]

/-- Text for a parameter does not reach the parameters that come later. -/
theorem Section.InRange.extend_append_right {place : Section} {params : List (Text × Text)}
    (h : place.InRange params) (t : Text) (more : List (Text × Text)) :
    place.extend t (params ++ more) = place.extend t params ++ more := by
  cases place with
  | param index =>
      exact modify_append_of_lt _ (h index rfl) more
  | _ => rfl

/-- Adding text adds no parameters. -/
theorem Section.length_extend (place : Section) (t : Text) (params : List (Text × Text)) :
    (place.extend t params).length = params.length := by
  cases place with
  | param index => exact List.length_modify ..
  | _ => rfl

namespace Reader

/-- The state of the reader behind a forest. -/
def absorb (reader : Reader) (forest : List Node) : Reader :=
  let here := reader.current.heading
  { doc :=
      { summary := reader.doc.summary ++ proseOfAll .summary here forest
        returns := reader.doc.returns ++ proseOfAll .returns here forest
        remarks := reader.doc.remarks ++ proseOfAll .remarks here forest
        params :=
          reader.current.extend (ownOfAll forest) reader.doc.params ++ paramsOfAll forest }
    loose := reader.loose ++ proseOfAll .loose here forest
    openElements := reader.openElements }

/-- Whether the parameter that text belongs to has been opened. -/
def InRange (reader : Reader) : Prop :=
  reader.current.InRange reader.doc.params

/-- Behind a forest the reader is in the section it was in before. -/
@[simp] theorem current_absorb (reader : Reader) (forest : List Node) :
    (reader.absorb forest).current = reader.current :=
  rfl

/-- The empty forest leaves the reader as it is. -/
theorem absorb_nil (reader : Reader) : reader.absorb [] = reader := by
  simp [absorb, proseOfAll, ownOfAll, paramsOfAll, Section.extend_nil]

/-- A parameter that has been opened is there behind every forest. -/
theorem InRange.absorb {reader : Reader} (h : reader.InRange) (forest : List Node) :
    (reader.absorb forest).InRange := by
  intro index hindex
  have hlt := h index hindex
  simp only [Reader.absorb, List.length_append, Section.length_extend]
  omega

/-- A forest may be absorbed node by node. -/
theorem InRange.absorb_cons {reader : Reader} (h : reader.InRange) (node : Node)
    (forest : List Node) :
    (reader.absorb [node]).absorb forest = reader.absorb (node :: forest) := by
  have hrange : reader.current.InRange (reader.current.extend (own node) reader.doc.params) := by
    intro index hindex
    rw [Section.length_extend]
    exact h index hindex
  have hparams : reader.current.extend (ownOfAll forest)
        (reader.current.extend (own node) reader.doc.params ++ paramsOf node) =
      reader.current.extend (own node ++ ownOfAll forest) reader.doc.params ++ paramsOf node := by
    rw [hrange.extend_append_right, Section.extend_append]
  conv_lhs => rw [Reader.absorb, current_absorb]
  simp only [Reader.absorb, proseOfAll, ownOfAll, paramsOfAll, List.append_nil, hparams,
    List.append_assoc]

/-- Text is added as a node that is nothing but this text. -/
theorem addText_eq_absorb (reader : Reader) {node : Node} {t : Text}
    (hprose : ∀ place here, prose place here node = if here = place then t else [])
    (hown : own node = t) (hparams : paramsOf node = []) :
    reader.addText t = reader.absorb [node] := by
  cases h : reader.current <;>
    simp [addText, absorb, h, proseOfAll, ownOfAll, paramsOfAll, hprose, hown, hparams,
      Section.heading, Section.extend]

/-- Adding a text is absorbing a forest of one text. -/
theorem addText_eq (reader : Reader) (t : Text) : reader.addText t = reader.absorb [.text t] :=
  reader.addText_eq_absorb (fun _ _ => by rw [prose]) (by rw [own]) (by simp [paramsOf])

/-- Adding no text leaves the reader as it is. -/
theorem addText_nil (reader : Reader) : reader.addText [] = reader := by
  rw [addText_eq]
  simp [absorb, proseOfAll, prose, ownOfAll, own, paramsOfAll, paramsOf, Section.extend_nil]

/-- Two texts are added as one. -/
theorem addText_addText (reader : Reader) (a b : Text) :
    (reader.addText a).addText b = reader.addText (a ++ b) := by
  have hite (place : Heading) : (if reader.current.heading = place then a ++ b else []) =
      (if reader.current.heading = place then a else []) ++
        if reader.current.heading = place then b else [] := by
    split_ifs <;> rfl
  rw [addText_eq, addText_eq, addText_eq]
  conv_lhs => rw [absorb, current_absorb]
  simp only [absorb, proseOfAll, prose, ownOfAll, own, paramsOfAll, paramsOf, List.append_nil,
    List.append_assoc, Section.extend_append, hite]

end Reader

/-! ## Reading on -/

/-- Reads text from a state of the reader. -/
def continue? (reader : Reader) (t : Text) : Option Reader :=
  (events? t).bind fun events => events.foldlM readEvent? reader

/-- The empty text leaves the reader as it is. -/
theorem continue?_nil (reader : Reader) : continue? reader [] = some reader := by
  rw [continue?, events?_of_notMem List.not_mem_nil]
  rfl

/-- Text in front of other events is unescaped and added first. -/
theorem foldlM_textEvent (reader : Reader) (t : Text) (events : List Event) :
    (textEvent t ++ events).foldlM readEvent? reader =
      (unescape? t).bind fun x => events.foldlM readEvent? (reader.addText x) := by
  cases t with
  | nil => simp [textEvent, unescape?, unescapeFrom?, Reader.addText_nil]
  | cons c t =>
      have hevent : textEvent (c :: t) = [.text (c :: t)] := rfl
      rw [hevent, List.singleton_append, List.foldlM_cons, readEvent?, Option.bind_eq_bind,
        Option.bind_map]
      rfl

/-- A text without tags is unescaped and added. -/
theorem continue?_of_notMem (reader : Reader) {t : Text} (h : '<' ∉ t) :
    continue? reader t = (unescape? t).map reader.addText := by
  have hfold := foldlM_textEvent reader t []
  rw [List.append_nil] at hfold
  rw [continue?, events?_of_notMem h, Option.bind_some, hfold]
  cases unescape? t <;> rfl

/-- A lone angle bracket at the end is passed over. -/
theorem continue?_append_lone (reader : Reader) {front : Text} (h : '<' ∉ front) :
    continue? reader (front ++ ['<']) = (unescape? front).map reader.addText := by
  rw [← continue?_of_notMem reader h, continue?, continue?, events?_append_lone h,
    events?_of_notMem h]

/-- A passage that cannot be read fails the whole text. -/
theorem continue?_of_readPassage?_eq_none (reader : Reader) {front passage : Text}
    (h : '<' ∉ front) (hne : passage ≠ []) (hread : readPassage? passage = none) :
    continue? reader (front ++ '<' :: passage) = none := by
  rw [continue?, events?_append_cons h hne, hread]
  rfl

/-- A passage that is read is not empty. -/
theorem ne_nil_of_readPassage? {passage rest : Text} {event : Event}
    (h : readPassage? passage = some (event, rest)) : passage ≠ [] := by
  rintro rfl
  cases h

/-- Reading goes on behind the next passage. -/
theorem continue?_passage (reader : Reader) {front passage rest : Text} {event : Event}
    (h : '<' ∉ front) (hread : readPassage? passage = some (event, rest)) :
    continue? reader (front ++ '<' :: passage) =
      (unescape? front).bind fun x =>
        (readEvent? (reader.addText x) event).bind fun reader => continue? reader rest := by
  rw [continue?, events?_append_cons h (ne_nil_of_readPassage? hread), hread]
  simp only [Option.bind_some]
  cases hevents : events? rest with
  | none => simp [continue?, hevents]
  | some events =>
      simp only [Option.map_some, Option.bind_some, foldlM_textEvent, List.foldlM_cons, continue?,
        hevents, Option.bind_eq_bind]

/-- A passage is read as one event, and the reader goes on behind it. -/
theorem continue?_cons (reader : Reader) {passage rest : Text} {event : Event}
    (h : readPassage? passage = some (event, rest)) :
    continue? reader ('<' :: passage) =
      (readEvent? reader event).bind fun reader => continue? reader rest := by
  have hcontinue := continue?_passage reader List.not_mem_nil h
  rw [List.nil_append] at hcontinue
  rw [hcontinue]
  simp [unescape?, unescapeFrom?, Reader.addText_nil]

/-- Text in front is added to the current section. -/
theorem continue?_text (reader : Reader) {written x : Text} (hwritten : '<' ∉ written)
    (hx : unescape? written = some x) (rest : Text) :
    continue? reader (written ++ rest) = continue? (reader.addText x) rest := by
  have hadd : reader.addText ∘ (x ++ ·) = (reader.addText x).addText :=
    funext fun y => (reader.addText_addText x y).symm
  by_cases hmem : '<' ∈ rest
  · obtain ⟨front, passage, rfl, hfront⟩ := List.eq_append_cons_of_mem hmem
    have hnot : '<' ∉ written ++ front := by
      rw [List.mem_append, not_or]
      exact ⟨hwritten, hfront⟩
    rw [← List.append_assoc]
    by_cases hne : passage = []
    · subst hne
      rw [continue?_append_lone reader hnot, continue?_append_lone _ hfront, unescape?_append hx,
        Option.map_map, hadd]
    · cases hread : readPassage? passage with
      | none =>
          rw [continue?_of_readPassage?_eq_none reader hnot hne hread,
            continue?_of_readPassage?_eq_none _ hfront hne hread]
      | some read =>
          rw [continue?_passage reader hnot hread, continue?_passage _ hfront hread,
            unescape?_append hx]
          simp only [Option.bind_map, Function.comp_def, Reader.addText_addText]
  · have hnot : '<' ∉ written ++ rest := by
      rw [List.mem_append, not_or]
      exact ⟨hwritten, hmem⟩
    rw [continue?_of_notMem reader hnot, continue?_of_notMem _ hmem, unescape?_append hx,
      Option.map_map, hadd]

/-! ## Reading a forest -/

/-- An attribute is looked up with the value that was written for it. -/
theorem attribute?_eq {attributes : List (Text × Text)} {name a : Text}
    (h : WrittenAttributes attributes a) (key : Text) :
    attribute? { name, attributes := a } key = some (attributes.lookup key) := by
  rcases h.lookup_eq key with ⟨hlookup, hnone⟩ | ⟨written, value, hlookup, hvalue, hsome⟩
  · rw [attribute?, hlookup, hnone]
  · simp only [attribute?, hlookup, hvalue, hsome, Option.map_some]

/-- A reference is added as the text that it stands for. -/
theorem map_attribute? {attributes : List (Text × Text)} {name a : Text} (reader : Reader)
    (h : WrittenAttributes attributes a) (key : Text) :
    ((attribute? { name, attributes := a } key).map fun reference =>
      match reference with
      | none => reader
      | some reference => reader.addText (referenceName reference)) =
      some (reader.addText (withoutKind ((attributes.lookup key).getD []))) := by
  rw [attribute?_eq h, Option.map_some]
  cases attributes.lookup key with
  | none => exact congrArg some (reader.addText_nil).symm
  | some reference => simp only [referenceName_eq, Option.getD_some]

/-- An empty element is absorbed by one event. -/
theorem readEvent?_empty {attributes : List (Text × Text)} {name a : Text} (reader : Reader)
    (h : WrittenAttributes attributes a) :
    readEvent? reader (.empty { name, attributes := a }) =
      some (reader.absorb [.empty name attributes]) := by
  rw [← reader.addText_eq_absorb (fun _ _ => by rw [prose]) (by rw [own]) (by simp [paramsOf]),
    readEvent?, referenceKey?, referenceText]
  split_ifs
  · exact map_attribute? reader h "cref"
  · exact map_attribute? reader h "name"
  · rw [reader.addText_nil]

namespace Reader

/-- Opening an element enters its section. -/
@[simp] theorem current_openElement (reader : Reader) (name : Text) (place : Section) :
    (reader.openElement name place).current = place :=
  rfl

/-- Opening an element adds nothing to the sections. -/
@[simp] theorem doc_openElement (reader : Reader) (name : Text) (place : Section) :
    (reader.openElement name place).doc = reader.doc :=
  rfl

/-- Opening an element adds no text outside sections. -/
@[simp] theorem loose_openElement (reader : Reader) (name : Text) (place : Section) :
    (reader.openElement name place).loose = reader.loose :=
  rfl

/-- `inner` is a state in which the content of an element is read: the element is the innermost open
one, and when its content has been absorbed and it is closed, the element has been absorbed. -/
structure Enters (reader : Reader) (name : Text) (attributes : List (Text × Text))
    (children : List Node) (inner : Reader) : Prop where
  inRange : inner.InRange
  openElements : ∃ place, inner.openElements = (name, place) :: reader.openElements
  absorb : { inner.absorb children with openElements := reader.openElements } =
    reader.absorb [.element name attributes children]

variable {reader : Reader} {name : Text}

/-- An element that names a section is entered by opening it, unless it describes a parameter. -/
theorem enters_section {place : Section} (hname : Heading.ofName? name = some place.heading)
    (hplace : place.heading ≠ .param) (attributes : List (Text × Text)) (children : List Node) :
    reader.Enters name attributes children (reader.openElement name place) where
  inRange := by
    rintro index rfl
    exact absurd rfl hplace
  openElements := ⟨place, rfl⟩
  absorb := by
    have hextend (t : Text) (params : List (Text × Text)) : place.extend t params = params := by
      cases place with
      | param index => exact absurd rfl hplace
      | _ => rfl
    simp [Reader.absorb, proseOfAll, prose, ownOfAll, own, paramsOfAll, paramsOf, hname, hplace,
      hextend, Section.extend_nil]

/-- An element that is no section makes no difference. -/
theorem enters_other (hrange : reader.InRange) (hname : Heading.ofName? name = none)
    (attributes : List (Text × Text)) (children : List Node) :
    reader.Enters name attributes children (reader.openElement name reader.current) where
  inRange := hrange
  openElements := ⟨reader.current, rfl⟩
  absorb := by
    simp [Reader.absorb, proseOfAll, prose, ownOfAll, own, paramsOfAll, paramsOf, hname]

/-- An element that describes a parameter is entered by opening the parameter. -/
theorem enters_param (hname : Heading.ofName? name = some .param)
    (attributes : List (Text × Text)) (children : List Node) :
    reader.Enters name attributes children
      (reader.openParam name ((attributes.lookup "name".toList).getD [])) where
  inRange := by
    intro index hindex
    cases hindex
    simp [openParam]
  openElements := ⟨_, rfl⟩
  absorb := by
    have hextend (params : List (Text × Text)) (param t : Text) :
        (Section.param params.length).extend t (params ++ [(param, [])]) =
          params ++ [(param, t)] := by
      induction params with
      | nil => rfl
      | cons first params ih => exact congrArg (first :: ·) ih
    simp [openParam, Reader.absorb, proseOfAll, prose, ownOfAll, own, paramsOfAll, paramsOf, hname,
      hextend, Section.extend_nil, Section.heading]

end Reader

/-- The tag of an element leads to its content. -/
theorem exists_enters {attributes : List (Text × Text)} {a : Text} {reader : Reader}
    (h : WrittenAttributes attributes a) (hrange : reader.InRange) (name : Text)
    (children : List Node) :
    ∃ inner, readEvent? reader (.opening { name, attributes := a }) = some inner ∧
      reader.Enters name attributes children inner := by
  rw [readEvent?]
  split_ifs with hsummary hreturns hremarks hparam
  · exact ⟨_, rfl, Reader.enters_section (by simp_all [Heading.ofName?, Section.heading])
      (by decide) attributes children⟩
  · exact ⟨_, rfl, Reader.enters_section (by simp_all [Heading.ofName?, Section.heading])
      (by decide) attributes children⟩
  · exact ⟨_, rfl, Reader.enters_section (by simp_all [Heading.ofName?, Section.heading])
      (by decide) attributes children⟩
  · rw [attribute?_eq h]
    exact ⟨_, rfl, Reader.enters_param (by simp_all [Heading.ofName?]) attributes children⟩
  · exact ⟨_, rfl, Reader.enters_other hrange (by simp_all [Heading.ofName?]) attributes children⟩

/-- **A forest is absorbed**, whatever stands in front of it and behind it. -/
theorem continue?_written {forest : List Node} {t : Text} (h : Written forest t) {reader : Reader}
    (hrange : reader.InRange) (rest : Text) :
    continue? reader (t ++ rest) = continue? (reader.absorb forest) rest := by
  induction h generalizing reader rest with
  | nil => rw [Reader.absorb_nil, List.nil_append]
  | @text forest t written behind hwritten ht _ ih =>
      rw [List.append_assoc, continue?_text reader hwritten ht, Reader.addText_eq,
        ih (hrange.absorb _), hrange.absorb_cons]
  | @verbatim forest t behind ht _ ih =>
      have hadd : reader.addText t = reader.absorb [.verbatim t] :=
        reader.addText_eq_absorb (fun _ _ => by rw [prose]) (by rw [own]) (by simp [paramsOf])
      have hshape : ("<![CDATA[" ++ (t ++ ("]]>" ++ behind)) : Text) ++ rest =
          '<' :: ("![CDATA[" ++ (t ++ ("]]>" ++ (behind ++ rest)))) := by
        simp
      rw [hshape, continue?_cons reader (readPassage?_verbatim ht _), readEvent?, Option.bind_some,
        hadd, ih (hrange.absorb _), hrange.absorb_cons]
  | @element forest children name attributes a content blanks behind hname ha _ hblanks _ ihc ih =>
      obtain ⟨inner, hopen, henters⟩ := exists_enters ha hrange name children
      have hclose : readEvent? (inner.absorb children) (.closing name) =
          some (reader.absorb [.element name attributes children]) := by
        obtain ⟨place, hplace⟩ := henters.openElements
        have hopened :
            (inner.absorb children).openElements = (name, place) :: reader.openElements := hplace
        rw [readEvent?, hopened, ← henters.absorb]
        exact if_pos rfl
      simp only [List.cons_append, List.append_assoc]
      rw [continue?_cons reader (readPassage?_opening hname ha _), hopen, Option.bind_some,
        ihc henters.inRange, continue?_cons _ (readPassage?_closing hname hblanks _), hclose,
        Option.bind_some, ih (hrange.absorb _), hrange.absorb_cons]
  | @empty forest name attributes a behind hname ha _ ih =>
      simp only [List.cons_append, List.append_assoc]
      rw [continue?_cons reader (readPassage?_empty hname ha _), readEvent?_empty reader ha,
        Option.bind_some, ih (hrange.absorb _), hrange.absorb_cons]

end DocComment

end DeclAtlas
