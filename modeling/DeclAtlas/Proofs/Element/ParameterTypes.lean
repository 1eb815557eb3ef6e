import Mathlib
import DeclAtlas.Proofs.Element.DisplayName
import DeclAtlas.Proofs.Text.Cutting
import DeclAtlas.Proofs.Text.WordChar

/-!
# The types in a display name

The display name of a function shows the types of its parameters.  They are found without a grammar:
the list is split at commas outside brackets, a parameter is cut at its first equals sign, and its
last word is dropped.  This module writes parameters down and shows that the types come out again.

* `Balanced`: brackets are closed in turn and commas stand inside them.  Brackets of the three kinds
  are counted together, so `(a]` is balanced as well.
* `Kept`: a text that no split cuts.  Balanced texts are kept (`Balanced.kept`).
* `Parameter.parameterType?_text`: the type of a parameter that is written down.
* **Theorem** (`ofName?_written`): the display name of a name with written parameters has their
  types in the place of the parameters.
-/

namespace DeclAtlas.DisplayName

open Text

/-! ## Brackets -/

/-- The number of brackets that are opened in a text. -/
def openings (t : Text) : Nat :=
  t.countP fun c => c == '<' || c == '(' || c == '['

/-- The number of brackets that are closed in a text. -/
def closings (t : Text) : Nat :=
  t.countP fun c => c == '>' || c == ')' || c == ']'

/-- Brackets are balanced, and commas stand inside them. -/
structure Balanced (t : Text) : Prop where
  /-- As many brackets are closed as are opened. -/
  total : closings t = openings t
  /-- None is closed before it is opened. -/
  before : ∀ front, front <+: t → closings front ≤ openings front
  /-- A bracket is open in front of every comma. -/
  inside : ∀ front, front ++ [','] <+: t → closings front < openings front

instance (t : Text) : Decidable (Balanced t) :=
  decidable_of_iff
    (closings t = openings t ∧ (∀ front ∈ t.inits, closings front ≤ openings front) ∧
      ∀ front ∈ t.inits, front ++ [','] <+: t → closings front < openings front)
    ⟨fun h => ⟨h.1, fun front hfront => h.2.1 front ((List.mem_inits front t).2 hfront),
      fun front hfront => h.2.2 front
        ((List.mem_inits front t).2 ((List.prefix_append front [',']).trans hfront)) hfront⟩,
    fun h => ⟨h.total, fun front hfront => h.before front ((List.mem_inits front t).1 hfront),
      fun front _ => h.inside front⟩⟩

/-- Openings are counted character by character. -/
theorem openings_cons (c : Char) (t : Text) : openings (c :: t) = openings [c] + openings t := by
  rw [openings, ← List.singleton_append, List.countP_append, openings, openings]

/-- Closings are counted character by character. -/
theorem closings_cons (c : Char) (t : Text) : closings (c :: t) = closings [c] + closings t := by
  rw [closings, ← List.singleton_append, List.countP_append, closings, closings]

/-! ## Splitting a parameter list -/

/-- A character other than a comma outside brackets belongs to the first parameter. -/
theorem parametersFrom_cons {depth : Nat} {c : Char} {rest first : Text} {others : List Text}
    (hcomma : c = ',' → 0 < depth)
    (hrest : parametersFrom (depth + openings [c] - closings [c]) rest = first :: others) :
    parametersFrom depth (c :: rest) = (c :: first) :: others := by
  have hsplit : ¬ (c == ',' && depth == 0) = true := by
    simp only [Bool.and_eq_true, beq_iff_eq, not_and]
    intro hc
    exact Nat.ne_of_gt (hcomma hc)
  have hdepth : (if c == '<' || c == '(' || c == '[' then depth + 1
      else if c == '>' || c == ')' || c == ']' then depth - 1 else depth) =
        depth + openings [c] - closings [c] := by
    rw [openings, closings, List.countP_singleton, List.countP_singleton]
    by_cases hopens : (c == '<' || c == '(' || c == '[') = true
    · have hcloses : ¬ (c == '>' || c == ')' || c == ']') = true := by
        simp only [Bool.or_eq_true, beq_iff_eq] at hopens
        rcases hopens with (rfl | rfl) | rfl <;> decide
      rw [if_pos hopens, if_pos hopens, if_neg hcloses, Nat.sub_zero]
    · rw [if_neg hopens, if_neg hopens, Nat.add_zero]
      split_ifs <;> rfl
  rw [parametersFrom, if_neg hsplit]
  simp only [hdepth, hrest]

/-- A text in front of a parameter list is not cut if its commas stand inside brackets, those
counted that are open in front of it. -/
theorem parametersFrom_append {depth : Nat} {t : Text}
    (hbefore : ∀ front, front <+: t → closings front ≤ depth + openings front)
    (hinside : ∀ front, front ++ [','] <+: t → closings front < depth + openings front)
    {rest first : Text} {others : List Text}
    (hrest : parametersFrom (depth + openings t - closings t) rest = first :: others) :
    parametersFrom depth (t ++ rest) = (t ++ first) :: others := by
  induction t generalizing depth with
  | nil => exact hrest
  | cons c t ih =>
      have hfirst : closings [c] ≤ depth + openings [c] :=
        hbefore [c] (List.prefix_append [c] t)
      have hcount : ∀ front, openings (c :: front) = openings [c] + openings front ∧
          closings (c :: front) = closings [c] + closings front :=
        fun front => ⟨openings_cons c front, closings_cons c front⟩
      refine parametersFrom_cons ?_ (ih ?_ ?_ ?_)
      · rintro rfl
        simpa [openings, closings] using hinside [] (List.prefix_append [','] t)
      · intro front hfront
        have hle := hbefore (c :: front) (List.cons_prefix_cons.2 ⟨rfl, hfront⟩)
        have := hcount front
        omega
      · intro front hfront
        have hlt := hinside (c :: front) (List.cons_prefix_cons.2 ⟨rfl, hfront⟩)
        have := hcount front
        omega
      · have := hcount t
        rw [← hrest]
        congr 1
        omega

/-- A text that stays in one piece at the front of a parameter list. -/
def Kept (t : Text) : Prop :=
  ∀ rest first others, parameters rest = first :: others →
    parameters (t ++ rest) = (t ++ first) :: others

/-- Two texts that stay in one piece make one that does. -/
theorem Kept.append {a b : Text} (ha : Kept a) (hb : Kept b) : Kept (a ++ b) := by
  intro rest first others hrest
  rw [List.append_assoc, List.append_assoc]
  exact ha _ _ _ (hb _ _ _ hrest)

/-- A balanced text stays in one piece. -/
theorem Balanced.kept {t : Text} (ht : Balanced t) : Kept t := by
  intro rest first others hrest
  refine parametersFrom_append ?_ ?_ ?_
  · intro front hfront
    rw [Nat.zero_add]
    exact ht.before front hfront
  · intro front hfront
    rw [Nat.zero_add]
    exact ht.inside front hfront
  · rw [Nat.zero_add, ht.total, Nat.sub_self]
    exact hrest

/-- The characters that splitting looks at. -/
def marks : Text := "<>()[],".toList

/-- A text without brackets and commas stays in one piece. -/
theorem kept_of_forall {t : Text} (ht : ∀ c ∈ t, c ∉ marks) : Kept t := by
  have hnone : ∀ front, front <+: t → openings front = 0 ∧ closings front = 0 := by
    intro front hfront
    refine ⟨List.countP_eq_zero.2 fun c hc hmark => ?_, List.countP_eq_zero.2 fun c hc hmark => ?_⟩
    all_goals
      refine ht c (hfront.subset hc) ?_
      simp only [Bool.or_eq_true, beq_iff_eq] at hmark
      rcases hmark with (rfl | rfl) | rfl <;> decide
  refine Balanced.kept ⟨?_, fun front hfront => ?_, fun front hfront => ?_⟩
  · rw [(hnone t (List.prefix_refl t)).1, (hnone t (List.prefix_refl t)).2]
  · rw [(hnone front hfront).1, (hnone front hfront).2]
  · exact absurd (by decide) (ht ',' (hfront.subset (by simp)))

/-- A space stays in one piece. -/
theorem kept_space : Kept [' '] :=
  kept_of_forall (List.forall_mem_singleton.2 (by decide))

/-- Texts that are kept are the parameters of the list that has commas and spaces between them. -/
theorem parameters_join {lead text : Text} (hlead : Kept lead) (htext : Kept text)
    {texts : List Text} (htexts : ∀ t ∈ texts, Kept t) :
    parameters (lead ++ join ", " (text :: texts)) = (lead ++ text) :: texts.map (' ' :: ·) := by
  induction texts generalizing lead text with
  | nil =>
      have hend : parameters [] = [[]] := rfl
      have hkept := hlead.append htext [] [] [] hend
      rw [List.append_nil] at hkept
      rw [join_singleton, hkept, List.map_nil]
  | cons next texts ih =>
      have hnext := ih kept_space (htexts next List.mem_cons_self)
        fun t ht => htexts t (List.mem_cons_of_mem next ht)
      have hcomma : parameters (',' :: ([' '] ++ join ", " (next :: texts))) =
          [] :: parameters ([' '] ++ join ", " (next :: texts)) := rfl
      have hkept := hlead.append htext _ _ _ hcomma
      have htext : lead ++ join ", " (text :: next :: texts) =
          lead ++ text ++ ',' :: ([' '] ++ join ", " (next :: texts)) := by
        rw [join_cons_cons]
        simp
      rw [htext, hkept, hnext, List.append_nil]
      rfl

/-! ## Parameters -/

/-- The characters of names: letters, digits, the underscore and the sign of verbatim names. -/
theorem isNameChar_iff {c : Char} :
    isNameChar c = true ↔ isAlphanumeric c = true ∨ c = '_' ∨ c = '@' := by
  simp [isNameChar, or_assoc]

/-- A type, a name and a default value, if there is one, that make a parameter. -/
structure IsParameter (type name : Text) (default? : Option Text) : Prop where
  type_ne_nil : type ≠ []
  type_trimmed : trim type = type
  type_unset : '=' ∉ type
  type_balanced : Balanced type
  name_ne_nil : name ≠ []
  name_plain : ∀ c ∈ name, isAlphanumeric c = true ∨ c = '_' ∨ c = '@'
  default_balanced : ∀ value, default? = some value → Balanced value

instance (type name : Text) (default? : Option Text) : Decidable (IsParameter type name default?) :=
  decidable_of_iff
    (type ≠ [] ∧ trim type = type ∧ '=' ∉ type ∧ Balanced type ∧ name ≠ [] ∧
      name.all isNameChar = true ∧ (default?.all fun value => decide (Balanced value)) = true) <| by
    rw [List.all_eq_true, Option.all_eq_true]
    constructor
    · rintro ⟨hne, htrim, hunset, htype, hname, hplain, hvalue⟩
      exact ⟨hne, htrim, hunset, htype, hname, fun c hc => isNameChar_iff.1 (hplain c hc),
        fun value h => of_decide_eq_true (hvalue value h)⟩
    · rintro ⟨hne, htrim, hunset, htype, hname, hplain, hvalue⟩
      exact ⟨hne, htrim, hunset, htype, hname, fun c hc => isNameChar_iff.2 (hplain c hc),
        fun value h => decide_eq_true (hvalue value h)⟩

/-- A parameter of a function. -/
structure Parameter where
  type : Text
  name : Text
  default? : Option Text
  proper : IsParameter type name default?

namespace Parameter

/-- The parameter written out. -/
def text (parameter : Parameter) : Text :=
  parameter.type ++ ' ' :: (parameter.name ++
    parameter.default?.elim [] fun value => " = ".toList ++ value)

variable (parameter : Parameter)

/-- The name of a parameter has name characters only. -/
theorem isNameChar_of_mem {c : Char} (hc : c ∈ parameter.name) : isNameChar c = true :=
  isNameChar_iff.2 (parameter.proper.name_plain c hc)

/-- There is no blank in the name of a parameter. -/
theorem isBlank_of_mem {c : Char} (hc : c ∈ parameter.name) : isBlank c = false := by
  rcases parameter.proper.name_plain c hc with h | rfl | rfl
  · exact isBlank_of_isWordChar (by rw [isWordChar, h]; rfl)
  · decide
  · decide

/-- There is no other character in the name of a parameter. -/
theorem notMem_name {c : Char} (hc : isNameChar c = false) : c ∉ parameter.name := by
  intro hmem
  rw [parameter.isNameChar_of_mem hmem] at hc
  cases hc

/-- A parameter stays in one piece. -/
theorem kept_text : Kept parameter.text := by
  have hname : Kept parameter.name := by
    have hmarks : marks.all (fun c => !isNameChar c) = true := by decide +kernel
    refine kept_of_forall fun c hc hmark => parameter.notMem_name ?_ hc
    simpa using List.all_eq_true.1 hmarks c hmark
  have hvalue : Kept (parameter.default?.elim [] fun value => " = ".toList ++ value) := by
    cases hdefault : parameter.default? with
    | none => exact kept_of_forall (List.forall_mem_nil _)
    | some value =>
        have hequals : Kept " = ".toList := Balanced.kept (by decide)
        exact hequals.append (parameter.proper.default_balanced value hdefault).kept
  exact parameter.proper.type_balanced.kept.append (kept_space.append (hname.append hvalue))

/-- Type and name of a parameter have no blanks around them. -/
theorem trim_type_name :
    trim (parameter.type ++ ' ' :: parameter.name) = parameter.type ++ ' ' :: parameter.name := by
  refine trim_of_ends (fun c hc => ?_) (fun c hc => ?_)
  · rw [List.head?_append_of_ne_nil _ parameter.proper.type_ne_nil] at hc
    exact isBlank_of_head?_trim (parameter.proper.type_trimmed.symm ▸ hc)
  · rw [← List.singleton_append, ← List.append_assoc,
      List.getLast?_append_of_ne_nil _ parameter.proper.name_ne_nil] at hc
    exact parameter.isBlank_of_mem (List.mem_of_getLast? hc)

/-- The first equals sign is the one in front of the default value. -/
theorem withoutDefault_text {lead : Text} (hlead : ∀ c ∈ lead, isBlank c = true) :
    withoutDefault (lead ++ parameter.text) = parameter.type ++ ' ' :: parameter.name := by
  have hequals : '=' ∉ lead ++ (parameter.type ++ ' ' :: parameter.name) := by
    have hname : '=' ∉ parameter.name := parameter.notMem_name (by decide +kernel)
    have hfront : '=' ∉ lead := fun hmem => absurd (hlead _ hmem) (by decide)
    simp [hname, hfront, parameter.proper.type_unset]
  rw [withoutDefault, text]
  cases parameter.default? with
  | none =>
      have htrim := trim_between_blanks hlead (List.forall_mem_nil _)
        (parameter.type ++ ' ' :: parameter.name)
      rw [List.append_nil] at htrim
      rw [Option.elim_none, List.append_nil, cutAt?_eq_none_iff.2 hequals]
      exact htrim.trans parameter.trim_type_name
  | some value =>
      have hcut : cutAt? '=' (lead ++ (parameter.type ++ ' ' :: (parameter.name ++
          (some value).elim [] fun value => " = ".toList ++ value))) =
            some (lead ++ (parameter.type ++ ' ' :: parameter.name) ++ [' '], ' ' :: value) := by
        refine cutAt?_eq_some_iff.2 ⟨by simp, ?_⟩
        simpa using hequals
      have hspace : ∀ c ∈ [' '], isBlank c = true := List.forall_mem_singleton.2 (by decide)
      have htrim := trim_between_blanks hlead hspace (parameter.type ++ ' ' :: parameter.name)
      rw [hcut]
      exact htrim.trans parameter.trim_type_name

/-- The last blank is the space in front of the name. -/
theorem withoutName?_text :
    withoutName? (parameter.type ++ ' ' :: parameter.name) = some parameter.type := by
  have hplain : ∀ c ∈ parameter.name.reverse, isBlank c = false :=
    fun c hc => parameter.isBlank_of_mem (List.mem_reverse.1 hc)
  have hreverse : (parameter.type ++ ' ' :: parameter.name).reverse =
      parameter.name.reverse ++ ' ' :: parameter.type.reverse := by simp
  have hlast : lastBlank? (parameter.type ++ ' ' :: parameter.name) = some ' ' := by
    rw [lastBlank?, hreverse, List.find?_append, List.find?_eq_none.2 (by simpa using hplain)]
    rfl
  have hcut : cutWhereLast? isBlank (parameter.type ++ ' ' :: parameter.name) =
      some (parameter.type, parameter.name) := by
    rw [cutWhereLast?, hreverse, cutWhere?_append _ hplain (by decide)]
    simp
  have hname : parameter.name.all isNameChar = true :=
    List.all_eq_true.2 fun c hc => parameter.isNameChar_of_mem hc
  rw [withoutName?, hlast, if_neg (by decide), hcut]
  simp only [hname, if_true, trimEnd_of_trim parameter.proper.type_trimmed]

/-- The type of a parameter is found whatever blanks stand in front of it. -/
theorem parameterType?_text {lead : Text} (hlead : ∀ c ∈ lead, isBlank c = true) :
    parameterType? (lead ++ parameter.text) = some parameter.type := by
  rw [parameterType?, parameter.withoutDefault_text hlead, withoutName?_text]

end Parameter

/-! ## Display names -/

/-- From parameters with a space in front of each the types are read. -/
theorem mapM_spaced (list : List Parameter) :
    ((list.map Parameter.text).map (' ' :: ·)).mapM parameterType? =
      some (list.map Parameter.type) := by
  have hspace : ∀ c ∈ [' '], isBlank c = true := List.forall_mem_singleton.2 (by decide)
  induction list with
  | nil => rfl
  | cons parameter list ih =>
      rw [List.map_cons, List.map_cons, List.mapM_cons, ih, ← List.singleton_append,
        parameter.parameterType?_text hspace]
      rfl

/-- The types are found in the written list.  An empty list has one parameter, which is empty. -/
theorem exists_mapM_parameterType? (list : List Parameter) :
    ∃ types, (parameters (join ", " (list.map Parameter.text))).mapM parameterType? = some types ∧
      types.filter (!·.isEmpty) = list.map Parameter.type := by
  cases list with
  | nil => exact ⟨[[]], rfl, rfl⟩
  | cons first others =>
      refine ⟨(first :: others).map Parameter.type, ?_, ?_⟩
      · have hsplit := parameters_join (kept_of_forall (List.forall_mem_nil _)) first.kept_text
          (List.forall_mem_map.2 fun (p : Parameter) (_ : p ∈ others) => p.kept_text)
        have hfirst := first.parameterType?_text (List.forall_mem_nil _)
        rw [List.nil_append] at hsplit
        rw [List.map_cons, hsplit, List.mapM_cons, hfirst, mapM_spaced]
        rfl
      · refine List.filter_eq_self.2 fun type htype => ?_
        obtain ⟨parameter, -, rfl⟩ := List.mem_map.1 htype
        simpa using parameter.proper.type_ne_nil

/-- **Theorem.** A name whose parameter list is written out has a display name, and this has the
types of the parameters in the place of the parameters. -/
theorem ofName?_written (list : List Parameter) {front rest : Text} (hfront : '(' ∉ front)
    (hrest : ')' ∉ rest) :
    ofName? (front ++ '(' :: join ", " (list.map Parameter.text) ++ ')' :: rest) =
      some (front ++ '(' :: join ", " (list.map Parameter.type) ++ ')' :: rest) := by
  obtain ⟨types, htypes, hfilter⟩ := exists_mapM_parameterType? list
  generalize join ", " (list.map Parameter.text) = written at htypes ⊢
  have hopen : cutAt? '(' (front ++ '(' :: written ++ ')' :: rest) =
      some (front, written ++ ')' :: rest) := by
    rw [List.append_assoc]
    exact cutAt?_append _ hfront
  have hclose : cutAtLast? ')' (front ++ '(' :: written ++ ')' :: rest) =
      some (front ++ '(' :: written, rest) := cutAtLast?_eq_some_iff.2 ⟨rfl, hrest⟩
  have hlist : (front ++ '(' :: written).drop (front.length + 1) = written := by simp
  have hlength : ¬ (front ++ '(' :: written).length < front.length := by simp
  rw [ofName?, hopen, hclose]
  simp only [if_neg hlength, hlist, htypes, ← hfilter]
  rfl

/-- A parameter list with a generic type, an array of tuples behind a modifier, and a default
value. -/
def busyList : List Parameter :=
  [⟨"Map<int, T[]>", "m", none, by decide +kernel⟩,
    ⟨"params (int a, int b)[]", "@all_2", none, by decide +kernel⟩,
    ⟨"Func<T>", "f", some "x == G(y, z[1])", by decide +kernel⟩]

/-- Brackets in front of the list and behind it do not matter. -/
theorem ofName?_written_busyList :
    '(' ∉ ")Run".toList ∧ ')' ∉ " : base(".toList ∧
      ofName? (")Run(Map<int, T[]> m, params (int a, int b)[] @all_2, ".toList ++
          "Func<T> f = x == G(y, z[1])) : base(".toList) =
        some ")Run(Map<int, T[]>, params (int a, int b)[], Func<T>) : base(".toList := by
  have hfront : '(' ∉ ")Run".toList := by decide
  have hrest : ')' ∉ " : base(".toList := by decide
  have hname := ofName?_written busyList hfront hrest
  refine ⟨hfront, hrest, ?_⟩
  convert hname using 2
  · decide +kernel
  · decide +kernel

end DeclAtlas.DisplayName
