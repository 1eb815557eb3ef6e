import Mathlib
import DeclAtlas.Page.Html
import DeclAtlas.Proofs.Markup.Entity
import DeclAtlas.Proofs.Text.Words

/-!
# Reading pages

A page is written as text.  Here it is read again, without regard to how it was built: text between
angle brackets is a tag, everything else is characters.

**Theorem** (`Html.read_render_append`): the tags that are read from a written piece are those of
the piece, with their attributes, whatever texts and values it holds and whatever follows it.
-/

namespace DeclAtlas

/-- What a page consists of. -/
inductive HtmlToken where
  /-- An opening tag with its attributes, the values as they are written. -/
  | opening (name : Text) (attributes : List (Text × Text))
  | closing (name : Text)
  /-- A character outside of tags, as it is written. -/
  | char (c : Char)
  deriving DecidableEq, Repr

namespace HtmlToken

/-- The attributes of a tag.  Between its quotes there are in turn a name, with a space in front of
it and an equals sign behind, and a value. -/
def attributesOf : List Text → List (Text × Text)
  | name :: value :: pieces => ((name.drop 1).dropLast, value) :: attributesOf pieces
  | _ => []

/-- The tag that has the given text between its angle brackets. -/
def ofTag : Text → HtmlToken
  | '/' :: name => closing name
  | body =>
    opening (body.takeWhile (· != ' '))
      (attributesOf (Text.splitAtChar '"' (body.dropWhile (· != ' '))))

/-- Reads a page; `pending` holds what has been read of a tag that is still open. -/
def readFrom (pending : Option Text) : Text → List HtmlToken
  | [] => []
  | c :: rest =>
    match pending with
    | none => if c == '<' then readFrom (some []) rest else .char c :: readFrom none rest
    | some body =>
      if c == '>' then ofTag body :: readFrom none rest else readFrom (some (body ++ [c])) rest

/-- Reads a page. -/
def read (t : Text) : List HtmlToken :=
  readFrom none t

/-- A text without tags is read character by character. -/
theorem read_append_of_text {t : Text} (ht : '<' ∉ t) (rest : Text) :
    read (t ++ rest) = t.map char ++ read rest := by
  induction t with
  | nil => rfl
  | cons c t ih =>
      rw [List.mem_cons, not_or] at ht
      have hc : (c == '<') = false := beq_eq_false_iff_ne.2 (Ne.symm ht.1)
      rw [List.cons_append, read, readFrom, hc, ← read, ih ht.2]
      rfl

/-- An open tag ends at the first closing angle bracket. -/
theorem readFrom_tag {body : Text} (hbody : '>' ∉ body) (front rest : Text) :
    readFrom (some front) (body ++ '>' :: rest) = ofTag (front ++ body) :: read rest := by
  induction body generalizing front with
  | nil => rw [List.nil_append, List.append_nil, readFrom]; rfl
  | cons c body ih =>
      rw [List.mem_cons, not_or] at hbody
      have hc : (c == '>') = false := beq_eq_false_iff_ne.2 (Ne.symm hbody.1)
      rw [List.cons_append, readFrom, hc, if_neg Bool.false_ne_true, ih hbody.2, List.append_assoc]
      rfl

/-- What stands between angle brackets is read as one tag. -/
theorem read_tag {body : Text} (hbody : '>' ∉ body) (rest : Text) :
    read ('<' :: (body ++ '>' :: rest)) = ofTag body :: read rest :=
  readFrom_tag hbody [] rest

end HtmlToken

namespace Html

open HtmlToken

/-! ## Tags -/

/-- No space, slash or bracket is in the name of a tag. -/
theorem notMem_name {tag : HtmlTag} {c : Char} (hc : c = ' ' ∨ c = '>' ∨ c = '/') :
    c ∉ tag.name := by
  rcases hc with rfl | rfl | rfl <;> cases tag <;> decide

/-- The attributes of an element as they are written. -/
def attributeTexts (attributes : List (HtmlAttribute × Text)) : List (Text × Text) :=
  attributes.map fun pair => (pair.1.name, Markup.escape pair.2)

/-- The quotes cut an attribute into its name and its value. -/
theorem splitAtChar_renderAttribute (key : HtmlAttribute) (value rest : Text) :
    Text.splitAtChar '"' (renderAttribute (key, value) ++ rest) =
      (' ' :: (key.name ++ ['='])) :: Markup.escape value :: Text.splitAtChar '"' rest := by
  have hname : '"' ∉ ' ' :: (key.name ++ ['=']) := by cases key <;> decide
  have hvalue : '"' ∉ Markup.escape value := fun hmem => by
    cases Markup.isDelimiter_of_mem_escape hmem
  have hshape : renderAttribute (key, value) ++ rest =
      (' ' :: (key.name ++ ['='])) ++ '"' :: (Markup.escape value ++ '"' :: rest) := by
    simp [renderAttribute]
  rw [hshape, Text.splitAtChar_append_cons hname, Text.splitAtChar_append_cons hvalue]

/-- No angle bracket closes inside an attribute: the value is escaped. -/
theorem notMem_renderAttribute (pair : HtmlAttribute × Text) : '>' ∉ renderAttribute pair := by
  have hname : '>' ∉ pair.1.name := by cases pair.1 <;> decide
  have hvalue : '>' ∉ Markup.escape pair.2 := fun hmem => by
    cases Markup.isDelimiter_of_mem_escape hmem
  simp [renderAttribute, hname, hvalue]

/-- The attributes of a tag are read as they are written. -/
theorem attributesOf_renderAttributes (attributes : List (HtmlAttribute × Text)) :
    attributesOf (Text.splitAtChar '"' (attributes.flatMap renderAttribute)) =
      attributeTexts attributes := by
  induction attributes with
  | nil => rfl
  | cons pair attributes ih =>
      rw [List.flatMap_cons, splitAtChar_renderAttribute, attributesOf, ih]
      simp [attributeTexts]

/-- What stands in an opening tag is read as the opening token. -/
theorem ofTag_openTag (tag : HtmlTag) (attributes : List (HtmlAttribute × Text)) :
    ofTag (tag.name ++ attributes.flatMap renderAttribute) =
      opening tag.name (attributeTexts attributes) := by
  have hname : ∀ c ∈ tag.name, (c != ' ') = true := by
    intro c hc
    rw [bne_iff_ne]
    rintro rfl
    exact notMem_name (.inl rfl) hc
  have htake : (attributes.flatMap renderAttribute).takeWhile (· != ' ') = [] := by
    cases attributes <;> rfl
  have hdrop : (attributes.flatMap renderAttribute).dropWhile (· != ' ') =
      attributes.flatMap renderAttribute := by
    cases attributes <;> rfl
  rw [ofTag]
  · rw [List.takeWhile_append_of_pos hname, List.dropWhile_append_of_pos hname, htake, hdrop,
      attributesOf_renderAttributes, List.append_nil]
  · -- no name begins with a slash
    intro name hname'
    cases tag <;> cases hname'

/-- An opening tag is read as one token. -/
theorem read_openTag (tag : HtmlTag) (attributes : List (HtmlAttribute × Text)) (rest : Text) :
    read (openTag tag attributes ++ rest) =
      opening tag.name (attributeTexts attributes) :: read rest := by
  have hbody : '>' ∉ tag.name ++ attributes.flatMap renderAttribute := by
    rw [List.mem_append, List.mem_flatMap]
    rintro (hmem | ⟨pair, -, hmem⟩)
    · exact notMem_name (.inr (.inl rfl)) hmem
    · exact notMem_renderAttribute pair hmem
  rw [← ofTag_openTag, ← read_tag hbody, openTag]
  simp

/-- A closing tag is read as one token. -/
theorem read_closeTag (tag : HtmlTag) (rest : Text) :
    read (closeTag tag ++ rest) = closing tag.name :: read rest := by
  have hbody : '>' ∉ '/' :: tag.name := by
    rw [List.mem_cons, not_or]
    exact ⟨by decide, notMem_name (.inr (.inl rfl))⟩
  exact (congrArg read (by simp [closeTag])).trans (read_tag hbody rest)

/-! ## Pieces -/

mutual

/-- The tokens of a piece of a page. -/
def tokens : Html → List HtmlToken
  | text t => (Markup.escape t).map char
  | element tag attributes children =>
    opening tag.name (attributeTexts attributes) :: (tokensOfAll children ++ [closing tag.name])
  | void tag attributes => [opening tag.name (attributeTexts attributes)]

/-- The tokens of several pieces, one after the other. -/
def tokensOfAll : List Html → List HtmlToken
  | [] => []
  | piece :: pieces => piece.tokens ++ tokensOfAll pieces

end

mutual

/-- **What is written is read again.** -/
theorem read_render_append (rest : Text) :
    (piece : Html) → read (piece.render ++ rest) = piece.tokens ++ read rest
  | text t => by
      have ht : '<' ∉ Markup.escape t := fun hmem => by
        cases Markup.isDelimiter_of_mem_escape hmem
      rw [render, tokens, read_append_of_text ht]
  | element tag attributes children => by
      rw [render, tokens, List.append_assoc, List.append_assoc, read_openTag,
        read_renderAll_append _ children, read_closeTag]
      simp
  | void tag attributes => by
      rw [render, tokens, read_openTag]
      rfl

/-- Rendered pieces are read as their tokens. -/
theorem read_renderAll_append (rest : Text) :
    (pieces : List Html) → read (renderAll pieces ++ rest) = tokensOfAll pieces ++ read rest
  | [] => rfl
  | piece :: pieces => by
      rw [renderAll, tokensOfAll, List.append_assoc, read_render_append _ piece,
        read_renderAll_append _ pieces, List.append_assoc]

end

end Html

end DeclAtlas
