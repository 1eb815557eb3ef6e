import Mathlib
import DeclAtlas.Proofs.Header.Comment
import DeclAtlas.Proofs.Tree.Defaults

/-!
# String literals in the value of a field

A header is searched for comments, arrows and equals signs as it stands: that some of its text is a
string literal plays no part.  Contents with a comment delimiter or an arrow are therefore taken for
syntax.  Contents without them only show in the default value.

* `Header.Unmistakable`: contents that are not taken for syntax.
* `Header.FieldFront`: what stands in front of the equals sign of a field.
* `Header.Apart`: two headers that differ at most in the content of one literal, behind the equals
  sign of a field.  Each step of taking a header apart keeps them apart in this way only.
* **Theorem** (`Header.read_withoutDefault_eq`): such headers declare the same, up to the default
  value.
-/

namespace DeclAtlas.Header

open DeclAtlas.Text

/-- A string literal. -/
def literal (content : Text) : Text :=
  '"' :: (content ++ ['"'])

/-- The content of a string literal that is not taken for anything else. -/
structure Unmistakable (content : Text) : Prop where
  /-- It does not end the literal. -/
  quote : '"' ∉ content
  /-- It has no escapes. -/
  backslash : '\\' ∉ content
  /-- It is not taken for an arrow. -/
  arrow : ¬ ['=', '>'] <:+: content
  /-- It is not taken for the start of a comment. -/
  opening : ¬ ['/', '*'] <:+: content
  /-- It is not taken for the end of a comment. -/
  closing : ¬ ['*', '/'] <:+: content

/-- What stands in front of the equals sign of a field: attributes and a declarator. -/
inductive FieldFront : Text → Prop
  /-- A declarator has no parameter list, and no attribute is left. -/
  | declarator {t : Text} (hparenthesis : '(' ∉ t) (hequals : '=' ∉ t)
      (hattribute : (trimStart t).head? ≠ some '[') : FieldFront t
  /-- An attribute group ends at the first closing bracket. -/
  | group {blanks interior t : Text} (hblanks : ∀ c ∈ blanks, isBlank c = true)
      (hinterior : ']' ∉ interior) (ht : FieldFront t) :
      FieldFront (blanks ++ '[' :: (interior ++ ']' :: t))

/-- The header has come to the value of a field. -/
def ReachesValue (t : Text) : Prop :=
  ∃ front value, t = front ++ '=' :: value ∧ FieldFront front ∧ ¬ ['/', '*'] <:+: front

/-- Two texts that are equal or differ in the content of one literal, in the value of a field. -/
inductive Apart (content content' : Text) : Text → Text → Prop
  | same (t : Text) : Apart content content' t t
  | value {front : Text} (hfront : FieldFront front) (value rest : Text) :
      Apart content content' (front ++ '=' :: (value ++ literal content ++ rest))
        (front ++ '=' :: (value ++ literal content' ++ rest))

/-! ## The text around a literal -/

/-- A literal is its content between two quotes. -/
theorem append_literal (a content rest : Text) :
    a ++ literal content ++ rest = a ++ '"' :: (content ++ '"' :: rest) := by
  simp [literal]

/-- Trimming the end stops at a literal. -/
theorem trimEnd_literal (a content rest : Text) :
    trimEnd (a ++ literal content ++ rest) = a ++ literal content ++ trimEnd rest := by
  have hclosed : trimEnd (a ++ literal content) = a ++ literal content := by
    have hlast : a ++ literal content = (a ++ '"' :: content) ++ ['"'] := by simp [literal]
    rw [hlast]
    exact trimEnd_of_last (by decide) _
  rw [trimEnd_append hclosed]

/-- A comment that is open in front of a literal stays open, and otherwise the literal is kept. -/
theorem dropComments_literal (a : Text) :
    (∃ kept, ∀ {content : Text}, Unmistakable content → ∀ rest,
        dropComments [] false (a ++ literal content ++ rest) = dropComments kept true rest) ∨
      ∃ front, ∀ {content : Text}, Unmistakable content → ∀ rest,
        dropComments [] false (a ++ literal content ++ rest) =
          front ++ literal content ++ dropComments [] false rest := by
  obtain ⟨kept, inside, hstate⟩ := exists_dropComments [] false a (d := '"') (by decide)
  cases inside with
  | true =>
      refine Or.inl ⟨kept, ?_⟩
      intro content hcontent rest
      rw [append_literal, hstate, dropComments_skip (by simp),
        dropComments_inside kept hcontent.closing (by decide), dropComments_skip (by simp)]
  | false =>
      refine Or.inr ⟨kept.reverse, ?_⟩
      intro content hcontent rest
      have hquoted : ('"' :: kept).head? ≠ some '/' := by simp
      have hkept := dropComments_append_kept hquoted [] false (content ++ '"' :: rest)
      rw [append_literal, hstate, dropComments_keep (by simp)]
      rw [List.nil_append] at hkept
      rw [hkept, dropComments_append hcontent.opening (by decide) (by decide)]
      simp [literal]

/-- A trailing equals sign stands behind the literal. -/
theorem dropTrailingEquals_literal (a content rest : Text) :
    dropTrailingEquals (a ++ literal content ++ rest) =
      a ++ literal content ++ dropTrailingEquals rest := by
  have hends : ∀ pattern : Text, '"' ∉ pattern →
      endsWith (a ++ literal content ++ rest) pattern = endsWith rest pattern := by
    intro pattern hpattern
    have hsplit : a ++ literal content ++ rest = (a ++ '"' :: content) ++ '"' :: rest := by
      simp [literal]
    rw [hsplit]
    exact endsWith_append_cons hpattern _ _
  unfold dropTrailingEquals
  rw [hends "=" (by decide), hends "==" (by decide)]
  split_ifs with hequals
  · have hne : rest ≠ [] := by
      rintro rfl
      exact absurd hequals (by decide)
    rw [List.dropLast_append_of_ne_nil hne, trimEnd_literal]
  · rfl

/-- An arrow stands in front of the literal or behind it. -/
theorem dropArrow_literal (a : Text) {content : Text} (hcontent : Unmistakable content)
    (rest : Text) :
    dropArrow (a ++ literal content ++ rest) =
      if (dropArrow a).2 then dropArrow a
      else (a ++ literal content ++ (dropArrow rest).1, (dropArrow rest).2) := by
  have hquote : '"' ∉ ("=>".toList : Text) := by decide
  have hne : ("=>".toList : Text) ≠ [] := by decide
  have hnone : cutOn? "=>" content = none := cutOn?_of_not_infix hcontent.arrow
  have hcut : cutOn? "=>" (a ++ literal content ++ rest) =
      ((cutOn? "=>" a).map fun cut => (cut.1, cut.2 ++ '"' :: (content ++ '"' :: rest))).or
        ((cutOn? "=>" rest).map fun cut => (a ++ literal content ++ cut.1, cut.2)) := by
    rw [append_literal, cutOn?_append_cons hquote hne, cutOn?_append_cons hquote hne content, hnone]
    simp [Option.map_map, Function.comp_def, literal]
  unfold dropArrow
  rw [hcut]
  cases cutOn? "=>" a with
  | some cut => rfl
  | none =>
      cases cutOn? "=>" rest with
      | none => rfl
      | some cut =>
          simp only [Option.map_none, Option.none_or, Option.map_some, trimEnd_literal]
          rfl

/-! ## The front of a field -/

/-- Blanks in front of a field do not matter. -/
theorem FieldFront.trimStart {front : Text} (h : FieldFront front) :
    FieldFront (Text.trimStart front) := by
  cases h with
  | declarator hparenthesis hequals hattribute =>
      refine .declarator (fun h => hparenthesis (mem_of_mem_trimStart h))
        (fun h => hequals (mem_of_mem_trimStart h)) ?_
      rwa [Text.trimStart, Text.trimStart, List.dropWhile_idempotent]
  | group hblanks hinterior ht =>
      rw [trimStart_blanks_append hblanks, trimStart_of_head (by decide)]
      exact FieldFront.group (fun _ hc => absurd hc List.not_mem_nil) hinterior ht

/-- A piece that starts with a bracket is an attribute group. -/
theorem takeAttributes_group {piece interior : Text} (h : trimStart piece = '[' :: interior)
    {pieces : List Text} (hne : pieces ≠ []) :
    takeAttributes (piece :: pieces) =
      (interior :: (takeAttributes pieces).1, (takeAttributes pieces).2) := by
  obtain ⟨next, rest, rfl⟩ := List.exists_cons_of_ne_nil hne
  simp only [takeAttributes, h]

/-- The first piece that starts with no bracket ends the attributes. -/
theorem takeAttributes_other {piece : Text} (h : (trimStart piece).head? ≠ some '[')
    {pieces : List Text} (hne : pieces ≠ []) :
    takeAttributes (piece :: pieces) = ([], join "]" (trimStart piece :: pieces)) := by
  obtain ⟨next, rest, rfl⟩ := List.exists_cons_of_ne_nil hne
  rw [takeAttributes]
  · split
    · rename_i interior hinterior
      rw [hinterior] at h
      exact absurd rfl h
    · rfl
  · simp

/-- A text that does not begin with an attribute group is taken as it is. -/
theorem takeAttributes_of_head {t : Text} (h : (trimStart t).head? ≠ some '[') :
    takeAttributes (splitAtChar ']' t) = ([], trimStart t) := by
  by_cases hmem : ']' ∈ t
  · obtain ⟨a, b, rfl, ha⟩ := List.eq_append_cons_of_mem hmem
    rw [trimStart_append_cons (by decide)] at h ⊢
    have hne : splitAtChar ']' b ≠ [] := splitWhere_ne_nil _ b
    have hhead : (trimStart a).head? ≠ some '[' := by
      cases htrim : trimStart a with
      | nil => simp
      | cons c a =>
          rw [htrim] at h
          exact h
    obtain ⟨piece, pieces, hpieces⟩ := List.exists_cons_of_ne_nil hne
    have hjoin := join_splitAtChar ']' b
    rw [hpieces] at hjoin
    rw [splitAtChar_append_cons ha, takeAttributes_other hhead hne, hpieces, join_cons_cons]
    change ([], trimStart a ++ [']'] ++ join [']'] (piece :: pieces)) = _
    rw [hjoin, List.append_assoc, List.singleton_append]
  · rw [splitAtChar_of_notMem hmem, takeAttributes]

/-- The attributes of a field are taken off, and the declarator is left with the value. -/
theorem FieldFront.exists_takeAttributes {front : Text} (h : FieldFront front) :
    ∃ interiors declarator, '(' ∉ declarator ∧ '=' ∉ declarator ∧
      ∀ rest, takeAttributes (splitAtChar ']' (front ++ '=' :: rest)) =
        (interiors, declarator ++ '=' :: rest) := by
  induction h with
  | @declarator t hparenthesis hequals hattribute =>
      refine ⟨[], Text.trimStart t, fun h => hparenthesis (mem_of_mem_trimStart h),
        fun h => hequals (mem_of_mem_trimStart h), ?_⟩
      intro rest
      rw [takeAttributes_of_head, trimStart_append_cons (by decide)]
      rw [trimStart_append_cons (by decide)]
      cases htrim : Text.trimStart t with
      | nil => simp
      | cons c t =>
          rw [htrim] at hattribute
          exact hattribute
  | @group blanks interior t hblanks hinterior ht ih =>
      obtain ⟨interiors, declarator, hparenthesis, hequals, hrest⟩ := ih
      refine ⟨interior :: interiors, declarator, hparenthesis, hequals, ?_⟩
      intro rest
      have hpiece : ']' ∉ blanks ++ '[' :: interior := by
        intro hmem
        rcases List.mem_append.1 hmem with hmem | hmem
        · exact absurd (hblanks _ hmem) (by decide)
        · rcases List.mem_cons.1 hmem with heq | hmem
          · exact absurd heq (by decide)
          · exact hinterior hmem
      have hsplit : blanks ++ '[' :: (interior ++ ']' :: t) ++ '=' :: rest =
          (blanks ++ '[' :: interior) ++ ']' :: (t ++ '=' :: rest) := by simp
      have htrim : Text.trimStart (blanks ++ '[' :: interior) = '[' :: interior := by
        rw [trimStart_blanks_append hblanks, trimStart_of_head (by decide)]
      have hne : splitAtChar ']' (t ++ '=' :: rest) ≠ [] := splitWhere_ne_nil _ _
      rw [hsplit, splitAtChar_append_cons hpiece, takeAttributes_group htrim hne, hrest]

/-- The equals sign behind a declarator is cut at, whatever follows. -/
theorem cutDefault?_declarator {declarator : Text} (hparenthesis : '(' ∉ declarator)
    (hequals : '=' ∉ declarator) (rest : Text) :
    cutDefault? false (declarator ++ '=' :: rest) = some (declarator, rest) := by
  induction declarator with
  | nil => rfl
  | cons c declarator ih =>
      obtain ⟨hc, hparenthesis⟩ := List.ne_and_not_mem_of_not_mem_cons hparenthesis
      obtain ⟨hc', hequals⟩ := List.ne_and_not_mem_of_not_mem_cons hequals
      rw [List.cons_append, cutDefault?, Bool.false_or, beq_eq_false_iff_ne.2 (Ne.symm hc),
        ih hparenthesis hequals]
      simp [Ne.symm hc']

/-! ## Headers that differ in a literal -/

namespace Apart

variable {content content' : Text}

/-- Dropping comments leaves the literal and all in front of it alike. -/
theorem dropComments {header : Text} (hheader : ReachesValue header)
    (hcontent : Unmistakable content) (hcontent' : Unmistakable content') (rest : Text) :
    Apart content content' (Header.dropComments [] false (header ++ literal content ++ rest))
      (Header.dropComments [] false (header ++ literal content' ++ rest)) := by
  obtain ⟨front, value, rfl, hfront, hopens⟩ := hheader
  have hkeep : ∀ content : Text,
      Header.dropComments [] false (front ++ '=' :: value ++ literal content ++ rest) =
        front ++ '=' :: Header.dropComments [] false (value ++ literal content ++ rest) := by
    intro content
    rw [List.append_assoc, List.append_assoc, List.cons_append,
      dropComments_append hopens (by decide) (by decide), ← List.append_assoc]
  rw [hkeep, hkeep]
  rcases dropComments_literal value with ⟨kept, hdropped⟩ | ⟨behind, hkept⟩
  · rw [hdropped hcontent, hdropped hcontent']
    exact .same _
  · rw [hkept hcontent, hkept hcontent']
    exact .value hfront behind _

variable {t t' : Text}

/-- Trimming leaves texts apart in the literal alone. -/
theorem trim (h : Apart content content' t t') :
    Apart content content' (Text.trim t) (Text.trim t') := by
  cases h with
  | same => exact .same _
  | @value front hfront value rest =>
      have htrim : ∀ content : Text,
          Text.trim (front ++ '=' :: (value ++ literal content ++ rest)) =
            trimStart front ++ '=' :: (value ++ literal content ++ trimEnd rest) := by
        intro content
        have hjoin : ∀ rest, trimStart front ++ '=' :: (value ++ literal content ++ rest) =
            (trimStart front ++ '=' :: value) ++ literal content ++ rest := by simp
        rw [Text.trim, trimStart_append_cons (by decide), hjoin, trimEnd_literal, hjoin]
      rw [htrim, htrim]
      exact .value hfront.trimStart value _

/-- The content of a literal makes no import. -/
theorem isImport_eq (h : Apart content content' t t') : isImport t = isImport t' := by
  cases h with
  | same => rfl
  | @value front hfront value rest =>
      have hfirst : ∀ rest : Text, isImport (front ++ '=' :: rest) = isImport (front ++ ['=']) := by
        intro rest
        unfold isImport
        rw [after?_append_cons (by decide), after?_append_cons (by decide)]
        rcases after? "using" front with _ | _ | _ <;> rfl
      exact (hfirst _).trans (hfirst _).symm

/-- The content of a literal makes no assignment. -/
theorem isAssignment_eq (h : Apart content content' t t') : isAssignment t = isAssignment t' := by
  cases h with
  | same => rfl
  | @value front hfront value rest =>
      -- The first two characters stand in front of the content.
      rcases front with _ | ⟨c, _ | ⟨d, front⟩⟩
      · rcases value with _ | ⟨e, value⟩ <;> rfl
      · rfl
      · rfl

/-- Dropping the equals sign at the end leaves texts apart in the literal alone. -/
theorem dropTrailingEquals (h : Apart content content' t t') :
    Apart content content' (Header.dropTrailingEquals t) (Header.dropTrailingEquals t') := by
  cases h with
  | same => exact .same _
  | @value front hfront value rest =>
      have hdrop : ∀ content : Text,
          Header.dropTrailingEquals (front ++ '=' :: (value ++ literal content ++ rest)) =
            front ++ '=' :: (value ++ literal content ++ Header.dropTrailingEquals rest) := by
        intro content
        have hdrop := dropTrailingEquals_literal (front ++ '=' :: value) content rest
        simpa using hdrop
      rw [hdrop, hdrop]
      exact .value hfront value _

/-- Dropping the arrow leaves texts apart in the literal alone, and finds an arrow in both or
none. -/
theorem dropArrow (hcontent : Unmistakable content) (hcontent' : Unmistakable content')
    (h : Apart content content' t t') :
    Apart content content' (Header.dropArrow t).1 (Header.dropArrow t').1 ∧
      (Header.dropArrow t).2 = (Header.dropArrow t').2 := by
  cases h with
  | same => exact ⟨.same _, rfl⟩
  | @value front hfront value rest =>
      have hjoin : ∀ content rest : Text, front ++ '=' :: (value ++ literal content ++ rest) =
          (front ++ '=' :: value) ++ literal content ++ rest := by simp
      rw [hjoin, hjoin, dropArrow_literal _ hcontent, dropArrow_literal _ hcontent']
      split_ifs
      · exact ⟨.same _, rfl⟩
      · rw [← hjoin, ← hjoin]
        exact ⟨.value hfront value _, rfl⟩

/-- Attributes and what stands in front of the default value are the same. -/
theorem split (h : Apart content content' t t') :
    (splitAttributes t).1 = (splitAttributes t').1 ∧
      (splitDefault (splitAttributes t).2).1 = (splitDefault (splitAttributes t').2).1 := by
  cases h with
  | same => exact ⟨rfl, rfl⟩
  | @value front hfront value rest =>
      obtain ⟨interiors, declarator, hparenthesis, hequals, htake⟩ := hfront.exists_takeAttributes
      have hsplit : ∀ rest, splitAttributes (front ++ '=' :: rest) =
          (join ", " interiors, declarator ++ '=' :: rest) := by
        intro rest
        rw [splitAttributes, htake]
      rw [hsplit, hsplit, splitDefault, splitDefault, cutDefault?_declarator hparenthesis hequals,
        cutDefault?_declarator hparenthesis hequals]
      exact ⟨rfl, rfl⟩

end Apart

/-! ## What such headers declare -/

/-- What a header says, with the default value of a declaration taken away. -/
def withoutDefault : Header → Header
  | .declaration element opensBody => .declaration element.withoutDefault opensBody
  | header => header

namespace Parts

/-- The parts with the default value taken away. -/
def withoutDefault (parts : Parts) : Parts :=
  { parts with defaultValue := [] }

/-- The parts of a header without default value, from its attributes and what follows them. -/
def ofFront (attributes front : Text) (hasArrow : Bool) : Parts :=
  let (visibility, modifiers, words) := takeKeywords none (Text.words front)
  let (type, words) := splitType words
  { attributes, visibility, modifiers, type, nameAndBases := Text.join " " words,
    defaultValue := [], hasArrow }

/-- Apart from the default value the parts come from what stands in front of it. -/
theorem withoutDefault_parts (t : Text) :
    (parts t).withoutDefault =
      ofFront (splitAttributes (dropArrow (dropTrailingEquals t)).1).1
        (splitDefault (splitAttributes (dropArrow (dropTrailingEquals t)).1).2).1
        (dropArrow (dropTrailingEquals t)).2 := by
  simp only [withoutDefault, parts, ofFront]

/-- A default value plays no part in what else is declared. -/
theorem declare_withoutDefault (context : HeaderContext) (parts : Parts) :
    parts.withoutDefault.declare context = (parts.declare context).withoutDefault := by
  have hname : parts.withoutDefault.name = parts.name := rfl
  unfold declare
  rw [hname]
  split_ifs <;> rfl

end Parts

section read

variable {content content' : Text} (hcontent : Unmistakable content)
  (hcontent' : Unmistakable content')

include hcontent hcontent'

/-- Texts that are apart in a literal have the same parts but for the default value. -/
theorem Apart.parts_eq {t t' : Text} (h : Apart content content' t t') :
    (parts t).withoutDefault = (parts t').withoutDefault := by
  obtain ⟨hbefore, harrow⟩ := h.dropTrailingEquals.dropArrow hcontent hcontent'
  obtain ⟨hattributes, hfront⟩ := hbefore.split
  rw [Parts.withoutDefault_parts, Parts.withoutDefault_parts, hattributes, hfront, harrow]

/-- **Literals in the value of a field**: their contents only show in the default value. -/
theorem read_withoutDefault_eq (context : HeaderContext) {header : Text}
    (hheader : ReachesValue header) (rest : Text) :
    (read context (header ++ literal content ++ rest)).withoutDefault =
      (read context (header ++ literal content' ++ rest)).withoutDefault := by
  have hstripped : Apart content content' (stripComments (header ++ literal content ++ rest))
      (stripComments (header ++ literal content' ++ rest)) :=
    (Apart.dropComments hheader hcontent hcontent' rest).trim
  unfold read
  simp only [hstripped.isImport_eq, hstripped.isAssignment_eq]
  split_ifs
  · rfl
  · rfl
  · rw [← Parts.declare_withoutDefault, ← Parts.declare_withoutDefault,
      hstripped.parts_eq hcontent hcontent']

end read

end DeclAtlas.Header
