import Mathlib
import DeclAtlas.Markup.Event
import DeclAtlas.Proofs.Text.Cutting

/-!
# Well-formed markup

Well-formed markup is a forest: texts, verbatim texts, elements with content and empty elements.  A
forest can be written in several ways, since a text may use entities, a value may stand in either
quotes, and tags may hold further blanks.  `Written` relates a forest to all its written forms.

Here is what the reader makes of one passage of a written form: a tag is read with its name and its
attributes, and an attribute is found with its value.
-/

namespace DeclAtlas.Markup

/-! ## Forests -/

/-- A piece of well-formed markup. -/
inductive Node where
  | text (t : Text)
  /-- A text that is written without entities. -/
  | verbatim (t : Text)
  | element (name : Text) (attributes : List (Text × Text)) (children : List Node)
  /-- An element that is written as one tag. -/
  | empty (name : Text) (attributes : List (Text × Text))

/-- Nothing but blanks. -/
def Blanks (t : Text) : Prop :=
  ∀ c ∈ t, isBlank c = true

instance (t : Text) : Decidable (Blanks t) :=
  List.decidableBAll (fun c => isBlank c = true) t

/-- The names of elements and attributes. -/
def IsName (name : Text) : Prop :=
  name ≠ [] ∧ ∀ c ∈ name, isBlank c = false ∧ c ∉ "<>/\"'=!?&".toList

instance (name : Text) : Decidable (IsName name) :=
  have := List.decidableBAll (fun c => isBlank c = false ∧ c ∉ "<>/\"'=!?&".toList) name
  instDecidableAnd

/-- The ways to write attributes, from the end of the element's name to the end of the tag. -/
inductive WrittenAttributes : List (Text × Text) → Text → Prop where
  | nil {blanks : Text} (hblanks : Blanks blanks) : WrittenAttributes [] blanks
  | cons {attributes : List (Text × Text)} {key value blanks before after written t : Text}
      {quote : Char} (hblanks : Blanks blanks) (hne : blanks ≠ []) (hkey : IsName key)
      (hbefore : Blanks before) (hafter : Blanks after) (hquote : quote = '"' ∨ quote = '\'')
      (hwritten : quote ∉ written) (hvalue : unescape? written = some value)
      (ht : WrittenAttributes attributes t) :
      WrittenAttributes ((key, value) :: attributes)
        (blanks ++ (key ++ (before ++ '=' :: (after ++ quote :: (written ++ quote :: t)))))

/-- The ways to write a forest. -/
inductive Written : List Node → Text → Prop where
  | nil : Written [] []
  | text {forest : List Node} {t written rest : Text} (hwritten : '<' ∉ written)
      (ht : unescape? written = some t) (hrest : Written forest rest) :
      Written (.text t :: forest) (written ++ rest)
  | verbatim {forest : List Node} {t rest : Text} (ht : ¬ "]]>".toList <:+: t)
      (hrest : Written forest rest) :
      Written (.verbatim t :: forest) ("<![CDATA[" ++ (t ++ ("]]>" ++ rest)))
  | element {forest children : List Node} {name : Text} {attributes : List (Text × Text)}
      {a content blanks rest : Text} (hname : IsName name)
      (hattributes : WrittenAttributes attributes a) (hchildren : Written children content)
      (hblanks : Blanks blanks) (hrest : Written forest rest) :
      Written (.element name attributes children :: forest)
        ('<' :: (name ++ (a ++ '>' ::
          (content ++ '<' :: '/' :: (name ++ (blanks ++ '>' :: rest))))))
  | empty {forest : List Node} {name : Text} {attributes : List (Text × Text)} {a rest : Text}
      (hname : IsName name) (hattributes : WrittenAttributes attributes a)
      (hrest : Written forest rest) :
      Written (.empty name attributes :: forest) ('<' :: (name ++ (a ++ '/' :: '>' :: rest)))

/-! ## Names and blanks -/

/-- There is nothing but blanks in blanks. -/
theorem Blanks.notMem {t : Text} (h : Blanks t) {c : Char} (hc : isBlank c = false) : c ∉ t := by
  intro hmem
  rw [h c hmem] at hc
  cases hc

/-- Dropping blanks stops at the first other character. -/
theorem Blanks.dropWhile_append {blanks : Text} (h : Blanks blanks) {c : Char}
    (hc : isBlank c = false) (t : Text) : (blanks ++ c :: t).dropWhile isBlank = c :: t := by
  rw [List.dropWhile_append_of_pos h, List.dropWhile_cons_of_neg (by simp [hc])]

namespace IsName

variable {name : Text} (h : IsName name)

include h

/-- No sign of markup is in a name. -/
theorem notMem {c : Char} (hc : c ∈ "<>/\"'=!?&".toList) : c ∉ name :=
  fun hmem => (h.2 c hmem).2 hc

/-- No blank is in a name. -/
theorem isBlank_eq_false : ∀ c ∈ name, isBlank c = false :=
  fun c hc => (h.2 c hc).1

/-- A name starts with a character that begins no other passage. -/
theorem exists_cons : ∃ c t, name = c :: t ∧ c ≠ '!' ∧ c ≠ '?' ∧ c ≠ '/' ∧ isBlank c = false := by
  obtain ⟨c, t, rfl⟩ := List.exists_cons_of_ne_nil h.1
  have hother {d : Char} (hd : d ∈ "<>/\"'=!?&".toList) : c ≠ d :=
    fun heq => h.notMem hd (heq ▸ List.mem_cons_self)
  exact ⟨c, t, rfl, hother (by decide), hother (by decide), hother (by decide),
    h.isBlank_eq_false c List.mem_cons_self⟩

end IsName

/-! ## The end of a tag -/

/-- A stretch of a tag with no `>` outside quotes and all its quotes closed. -/
def Closed (t : Text) : Prop :=
  ∀ rest, cutUnquoted? none (t ++ rest) =
    (cutUnquoted? none rest).map fun cut => (t ++ cut.1, cut.2)

/-- Closed stretches one after the other are a closed stretch. -/
theorem Closed.append {a b : Text} (ha : Closed a) (hb : Closed b) : Closed (a ++ b) := by
  intro rest
  rw [List.append_assoc, ha, hb, Option.map_map]
  simp only [Function.comp_def, List.append_assoc]

/-- A stretch without quotes and without `>` is closed. -/
theorem closed_of_plain {t : Text} (h : ∀ c ∈ t, c ≠ '>' ∧ c ≠ '"' ∧ c ≠ '\'') : Closed t := by
  induction t with
  | nil =>
      intro rest
      simp
  | cons c t ih =>
      intro rest
      rw [List.forall_mem_cons] at h
      obtain ⟨⟨hend, hdouble, hsingle⟩, ht⟩ := h
      have hquote : nextQuote none c = none := by simp [nextQuote, hdouble, hsingle]
      rw [List.cons_append, cutUnquoted?, if_neg (by simp [hend]), hquote, ih ht, Option.map_map]
      rfl

/-- Behind an opening quote everything belongs to the tag up to the closing one. -/
theorem cutUnquoted?_quoted {quote : Char} {t : Text} (h : quote ∉ t) (rest : Text) :
    cutUnquoted? (some quote) (t ++ quote :: rest) =
      (cutUnquoted? none rest).map fun cut => (t ++ quote :: cut.1, cut.2) := by
  induction t with
  | nil =>
      rw [List.nil_append, cutUnquoted?, if_neg (by simp)]
      simp [nextQuote]
  | cons c t ih =>
      obtain ⟨hc, ht⟩ := List.ne_and_not_mem_of_not_mem_cons h
      have hquote : nextQuote (some quote) c = some quote := by simp [nextQuote, Ne.symm hc]
      rw [List.cons_append, cutUnquoted?, if_neg (by simp), hquote, ih ht, Option.map_map]
      rfl

/-- A quoted value is closed, whatever is in it. -/
theorem closed_quoted {quote : Char} {t : Text} (hquote : quote = '"' ∨ quote = '\'')
    (h : quote ∉ t) : Closed (quote :: (t ++ [quote])) := by
  intro rest
  have hend : quote ≠ '>' := by rcases hquote with rfl | rfl <;> decide
  have hnext : nextQuote none quote = some quote := by rcases hquote with rfl | rfl <;> rfl
  rw [List.cons_append, cutUnquoted?, if_neg (by simp [hend]), hnext, List.append_assoc,
    List.singleton_append, cutUnquoted?_quoted h, Option.map_map]
  simp [Function.comp_def]

/-- Blanks are closed. -/
theorem Blanks.closed {t : Text} (h : Blanks t) : Closed t :=
  closed_of_plain fun _ hc => ⟨fun heq => h.notMem rfl (heq ▸ hc),
    fun heq => h.notMem rfl (heq ▸ hc), fun heq => h.notMem rfl (heq ▸ hc)⟩

/-- Names are closed. -/
theorem IsName.closed {name : Text} (h : IsName name) : Closed name :=
  closed_of_plain fun _ hc => ⟨fun heq => h.notMem (by decide) (heq ▸ hc),
    fun heq => h.notMem (by decide) (heq ▸ hc), fun heq => h.notMem (by decide) (heq ▸ hc)⟩

namespace WrittenAttributes

variable {attributes : List (Text × Text)} {a : Text}

/-- Attributes are closed. -/
theorem closed (h : WrittenAttributes attributes a) : Closed a := by
  induction h with
  | nil hblanks => exact hblanks.closed
  | @cons _ _ _ _ _ _ written t quote hblanks _ hkey hbefore hafter hquote hwritten _ _ ih =>
      have hequals : Closed ['='] := closed_of_plain (by simp)
      have hvalue : Closed (quote :: (written ++ quote :: t)) := by
        have hshape : quote :: (written ++ quote :: t) = quote :: (written ++ [quote]) ++ t := by
          simp
        rw [hshape]
        exact (closed_quoted hquote hwritten).append ih
      exact hblanks.closed.append (hkey.closed.append (hbefore.closed.append
        (hequals.append (hafter.closed.append hvalue))))

/-- Attributes end the name in front of them. -/
theorem takeWhile_eq (h : WrittenAttributes attributes a) :
    a.takeWhile (!isBlank ·) = [] ∧ a.dropWhile (!isBlank ·) = a := by
  have hhead {blanks : Text} (hblanks : Blanks blanks) (t : Text) (hne : blanks = [] → t = []) :
      (blanks ++ t).takeWhile (!isBlank ·) = [] ∧
        (blanks ++ t).dropWhile (!isBlank ·) = blanks ++ t := by
    cases blanks with
    | nil => simp [hne rfl]
    | cons c blanks =>
        have hc : isBlank c = true := hblanks c List.mem_cons_self
        simp [hc]
  cases h with
  | nil hblanks => simpa using hhead hblanks [] fun _ => rfl
  | cons hblanks hne => exact hhead hblanks _ fun heq => absurd heq hne

/-- Attributes do not end with a slash. -/
theorem getLast?_ne (h : WrittenAttributes attributes a) : a.getLast? ≠ some '/' := by
  induction h with
  | nil hblanks =>
      intro hlast
      exact hblanks.notMem (by rfl) (List.mem_of_getLast? hlast)
  | @cons _ _ _ _ _ _ _ t quote _ _ _ _ _ hquote _ _ _ ih =>
      have hne : quote ≠ '/' := by rcases hquote with rfl | rfl <;> decide
      simp only [List.getLast?_append, List.getLast?_cons]
      cases hlast : t.getLast? with
      | none => simpa [hlast] using hne
      | some c =>
          rw [hlast] at ih
          simpa [hlast] using ih

end WrittenAttributes

/-! ## Passages -/

section passages

variable {attributes : List (Text × Text)} {name a : Text}

/-- A name with attributes behind it is the tag with this name. -/
theorem tagOf_append (hname : IsName name) (ha : WrittenAttributes attributes a) :
    tagOf (name ++ a) = { name, attributes := a } := by
  have hpos : ∀ c ∈ name, (!isBlank c) = true := by
    intro c hc
    rw [hname.isBlank_eq_false c hc]
    rfl
  rw [tagOf, List.takeWhile_append_of_pos hpos, List.dropWhile_append_of_pos hpos,
    ha.takeWhile_eq.1, ha.takeWhile_eq.2, List.append_nil]

/-- A tag without a slash at its end opens an element. -/
theorem elementOf_of_getLast? {content : Text} (h : content.getLast? ≠ some '/') :
    elementOf content = .opening (tagOf content) := by
  unfold elementOf
  split
  · rename_i reversed heq
    rw [List.reverse_eq_iff] at heq
    simp [heq] at h
  · rfl

/-- A tag with a slash at its end is an empty element. -/
theorem elementOf_slash (content : Text) :
    elementOf (content ++ ['/']) = .empty (tagOf content) := by
  unfold elementOf
  rw [List.reverse_append, List.reverse_singleton, List.singleton_append]
  exact congrArg (fun t => Event.empty (tagOf t)) (List.reverse_reverse content)

/-- A passage that begins like a name is a tag. -/
theorem readPassage?_of_isName (hname : IsName name) (t : Text) :
    readPassage? (name ++ t) =
      (cutUnquoted? none (name ++ t)).map fun cut => (elementOf cut.1, cut.2) := by
  obtain ⟨c, name, rfl, hmark, hquestion, hslash, -⟩ := hname.exists_cons
  rw [List.cons_append]
  unfold readPassage?
  split
  · exact absurd (List.cons.inj ‹_›).1 hmark
  · exact absurd (List.cons.inj ‹_›).1 hquestion
  · exact absurd (List.cons.inj ‹_›).1 hslash
  · rfl

/-- An opening tag is read up to its end. -/
theorem readPassage?_opening (hname : IsName name) (ha : WrittenAttributes attributes a)
    (rest : Text) :
    readPassage? (name ++ (a ++ '>' :: rest)) =
      some (.opening { name, attributes := a }, rest) := by
  have hlast : (name ++ a).getLast? ≠ some '/' := by
    rw [List.getLast?_append]
    cases hlast : a.getLast? with
    | none =>
        intro hslash
        have hmem : '/' ∈ name := List.mem_of_getLast? (by simpa using hslash)
        exact hname.notMem (by decide) hmem
    | some c =>
        have := ha.getLast?_ne
        rw [hlast] at this
        simpa using this
  have hend : cutUnquoted? none ('>' :: rest) = some ([], rest) := rfl
  rw [readPassage?_of_isName hname, ← List.append_assoc, (hname.closed.append ha.closed), hend,
    Option.map_some, Option.map_some, List.append_nil, elementOf_of_getLast? hlast,
    tagOf_append hname ha]

/-- The tag of an empty element is read up to its end. -/
theorem readPassage?_empty (hname : IsName name) (ha : WrittenAttributes attributes a)
    (rest : Text) :
    readPassage? (name ++ (a ++ '/' :: '>' :: rest)) =
      some (.empty { name, attributes := a }, rest) := by
  have hend : cutUnquoted? none ('/' :: '>' :: rest) = some (['/'], rest) := rfl
  rw [readPassage?_of_isName hname, ← List.append_assoc, (hname.closed.append ha.closed), hend,
    Option.map_some, Option.map_some, elementOf_slash, tagOf_append hname ha]

/-- Blanks behind the name of a closing tag are dropped. -/
theorem closingName_append (hname : IsName name) {blanks : Text} (hblanks : Blanks blanks) :
    closingName (name ++ blanks) = name := by
  have hsome : ((name ++ blanks).all isBlank) = false := by
    obtain ⟨c, t, rfl, -, -, -, hc⟩ := hname.exists_cons
    simp [hc]
  have hreversed : ∀ c ∈ blanks.reverse, isBlank c = true := by
    intro c hc
    exact hblanks c (List.mem_reverse.1 hc)
  have hname' : name.reverse.dropWhile isBlank = name.reverse := by
    rw [List.dropWhile_eq_self_iff]
    intro hpos
    rw [hname.isBlank_eq_false _ (List.mem_reverse.1 (List.getElem_mem hpos))]
    exact Bool.false_ne_true
  rw [closingName, hsome, List.reverse_append, List.dropWhile_append_of_pos hreversed, hname',
    List.reverse_reverse]
  rfl

/-- A closing tag is read up to its end. -/
theorem readPassage?_closing (hname : IsName name) {blanks : Text} (hblanks : Blanks blanks)
    (rest : Text) :
    readPassage? ('/' :: (name ++ (blanks ++ '>' :: rest))) = some (.closing name, rest) := by
  have hnot : '>' ∉ name ++ blanks := by
    rw [List.mem_append, not_or]
    exact ⟨hname.notMem (by decide), hblanks.notMem rfl⟩
  have hcut : cutOrEnd (name ++ (blanks ++ '>' :: rest)) = (name ++ blanks, rest) := by
    rw [cutOrEnd, ← List.append_assoc, Text.cutAt?_append _ hnot]
    rfl
  rw [readPassage?, hcut]
  dsimp only
  rw [closingName_append hname hblanks]

/-- Verbatim text ends at the first mark of its end.  The mark cannot begin inside the text, since
its last character differs from those in front. -/
theorem cutOn?_verbatim {t : Text} (h : ¬ "]]>".toList <:+: t) (rest : Text) :
    Text.cutOn? "]]>" (t ++ ("]]>" ++ rest)) = some (t, rest) := by
  induction t with
  | nil =>
      rw [List.nil_append]
      simp [Text.cutOn?, Text.after?]
  | cons c t ih =>
      have ht : ¬ "]]>".toList <:+: t :=
        fun hoccurs => h (hoccurs.trans (List.suffix_cons c t).isInfix)
      have hafter : Text.after? "]]>" (c :: (t ++ ("]]>" ++ rest))) = none := by
        rw [Option.eq_none_iff_forall_ne_some]
        intro after hsome
        have heq := Text.eq_of_after? hsome
        rcases t with _ | ⟨d, _ | ⟨e, t⟩⟩
        · simp at heq
        · simp at heq
        · obtain ⟨rfl, rfl, rfl, -⟩ : c = ']' ∧ d = ']' ∧ e = '>' ∧ _ := by simpa using heq
          exact h ⟨[], t, rfl⟩
      rw [List.cons_append, Text.cutOn?, hafter, ih ht]
      rfl

/-- A verbatim passage is read up to its first end mark. -/
theorem readPassage?_verbatim {t : Text} (h : ¬ "]]>".toList <:+: t) (rest : Text) :
    readPassage? ("![CDATA[" ++ (t ++ ("]]>" ++ rest))) = some (.verbatim t, rest) := by
  have hbody (body : Text) : afterFolded? "CDATA[" ("CDATA[" ++ body) = some body := by
    simp [afterFolded?]
  have hshape (body : Text) : readPassage? ("![CDATA[" ++ body) =
      (afterFolded? "CDATA[" ("CDATA[" ++ body)).bind fun body =>
        (Text.cutOn? "]]>" body).bind fun cut => some (.verbatim cut.1, cut.2) :=
    rfl
  rw [hshape, hbody, Option.bind_some, cutOn?_verbatim h]
  rfl

end passages

/-! ## Attributes -/

/-- A name goes on to its end. -/
theorem endsKey_eq_false {key : Text} (h : IsName key) : ∀ c ∈ key, endsKey c = false := by
  intro c hc
  have hequals : c ≠ '=' := fun heq => h.notMem (by decide) (heq ▸ hc)
  simp [endsKey, hequals, h.isBlank_eq_false c hc]

/-- A quoted value is read, with the blanks around the equals sign passed over. -/
theorem readValue?_eq {before after written : Text} {quote : Char} (hbefore : Blanks before)
    (hafter : Blanks after) (hquote : quote = '"' ∨ quote = '\'') (hwritten : quote ∉ written)
    (t : Text) :
    readValue? (before ++ '=' :: (after ++ quote :: (written ++ quote :: t))) =
      some (written, t) := by
  have hcut := Text.cutAt?_append t hwritten
  have hblank : isBlank quote = false := by rcases hquote with rfl | rfl <;> rfl
  have hequals : isBlank '=' = false := rfl
  rcases hquote with rfl | rfl
  · simp only [readValue?, hbefore.dropWhile_append hequals, hafter.dropWhile_append hblank, hcut]
  · simp only [readValue?, hbefore.dropWhile_append hequals, hafter.dropWhile_append hblank, hcut]

/-- The first attribute of a list is read up to its end. -/
theorem lookup_append {blanks name before after written : Text} {quote : Char}
    (hblanks : Blanks blanks) (hname : IsName name) (hbefore : Blanks before)
    (hafter : Blanks after) (hquote : quote = '"' ∨ quote = '\'') (hwritten : quote ∉ written)
    (key t : Text) :
    lookup key
        (blanks ++ (name ++ (before ++ '=' :: (after ++ quote :: (written ++ quote :: t))))) =
      if name = key then .found written else lookup key t := by
  have hvalue := readValue?_eq hbefore hafter hquote hwritten t
  have hends : ∀ c ∈ name, (!endsKey c) = true := by
    intro c hc
    rw [endsKey_eq_false hname c hc]
    rfl
  obtain ⟨first, name, rfl, -, -, -, hfirst⟩ := hname.exists_cons
  rw [List.forall_mem_cons] at hends
  -- the key ends in front of the blanks or at the equals sign
  have hkey (u : Text) : (before ++ '=' :: u).takeWhile (!endsKey ·) = [] ∧
      (before ++ '=' :: u).dropWhile (!endsKey ·) = before ++ '=' :: u := by
    cases before with
    | nil => simp [endsKey]
    | cons c before =>
        have hc : isBlank c = true := hbefore c List.mem_cons_self
        simp [endsKey, hc]
  rw [List.cons_append, lookup]
  split
  · rename_i heq
    rw [hblanks.dropWhile_append hfirst] at heq
    cases heq
  · rename_i heq
    rw [hblanks.dropWhile_append hfirst] at heq
    obtain ⟨rfl, rfl⟩ := List.cons.inj heq
    split
    · rename_i heq
      rw [List.dropWhile_append_of_pos hends.2, (hkey _).2, hvalue] at heq
      cases heq
    · rename_i heq
      rw [List.dropWhile_append_of_pos hends.2, (hkey _).2, hvalue] at heq
      cases heq
      rw [List.takeWhile_append_of_pos hends.2, (hkey _).1, List.append_nil]

/-- There is no attribute in blanks. -/
theorem lookup_blanks {blanks : Text} (h : Blanks blanks) (key : Text) :
    lookup key blanks = .absent := by
  have hdrop : blanks.dropWhile isBlank = [] := List.dropWhile_eq_nil_iff.2 h
  rw [lookup]
  split
  · rfl
  · rename_i heq
    rw [hdrop] at heq
    cases heq

/-- The value of an attribute is found as it is written, and that of the first one if there are
several. -/
theorem WrittenAttributes.lookup_eq {attributes : List (Text × Text)} {a : Text}
    (h : WrittenAttributes attributes a) (key : Text) :
    (lookup key a = .absent ∧ attributes.lookup key = none) ∨
      ∃ written value, lookup key a = .found written ∧ unescape? written = some value ∧
        attributes.lookup key = some value := by
  induction h with
  | nil hblanks => exact .inl ⟨lookup_blanks hblanks key, rfl⟩
  | @cons _ name value _ _ _ written _ _ hblanks _ hname hbefore hafter hquote hwritten hvalue _
      ih =>
      rw [lookup_append hblanks hname hbefore hafter hquote hwritten, List.lookup_cons]
      by_cases hkey : name = key
      · subst hkey
        exact .inr ⟨written, value, if_pos rfl, hvalue, by simp⟩
      · rw [if_neg hkey, beq_false_of_ne (Ne.symm hkey)]
        exact ih

/-! ## Events -/

/-- A text without tags is one event. -/
theorem events?_of_notMem {t : Text} (h : '<' ∉ t) : events? t = some (textEvent t) := by
  rw [events?]
  split
  · rfl
  all_goals
    rename_i hcut
    rw [Text.cutAt?_eq_none_iff.2 h] at hcut
    cases hcut

/-- A `<` at the very end opens nothing. -/
theorem events?_append_lone {front : Text} (h : '<' ∉ front) :
    events? (front ++ ['<']) = some (textEvent front) := by
  have hfront : Text.cutAt? '<' (front ++ ['<']) = some (front, []) := Text.cutAt?_append [] h
  rw [events?]
  split
  all_goals
    rename_i hcut
    rw [hfront] at hcut
    cases hcut
  rfl

/-- Text up to a passage, and the passage. -/
theorem events?_append_cons {front passage : Text} (h : '<' ∉ front) (hne : passage ≠ []) :
    events? (front ++ '<' :: passage) =
      (readPassage? passage).bind fun (event, rest) =>
        (events? rest).map fun events => textEvent front ++ event :: events := by
  have hfront : Text.cutAt? '<' (front ++ '<' :: passage) = some (front, passage) :=
    Text.cutAt?_append passage h
  obtain ⟨c, passage, rfl⟩ := List.exists_cons_of_ne_nil hne
  rw [events?]
  split
  case h_3 hcut =>
    rw [hfront] at hcut
    cases hcut
    split <;> simp_all
  all_goals
    rename_i hcut
    rw [hfront] at hcut
    cases hcut

end DeclAtlas.Markup
