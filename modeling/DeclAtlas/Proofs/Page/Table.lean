import Mathlib
import DeclAtlas.Page.Basic
import DeclAtlas.Proofs.Page.Token

/-!
# The tables of a page

What a reader of a page sees of its members is read from the written text: headings, below each of
them a table, and in each row a declaration that may be a link (`Page.tables`).  The links of the
whole page are read separately (`Page.hrefs`), so none is missed.

* `Page.tables_render`: a page has a table for each kind of which there are documented members, with
  one row for each of them.
* `Page.hrefs_render`: there are no links on a page but those in these rows.
-/

namespace DeclAtlas

/-! ## Reading tables -/

namespace HtmlToken

/-- Whether the token opens an element. -/
def opens (tag : HtmlTag) : HtmlToken → Bool
  | .opening name _ => name == tag.name
  | _ => false

/-- Whether the token closes an element. -/
def closes (tag : HtmlTag) : HtmlToken → Bool
  | .closing name => name == tag.name
  | _ => false

/-- The character that the token is. -/
def char? : HtmlToken → Option Char
  | .char c => some c
  | _ => none

/-- The link that a tag has, as it is written. -/
def href? : HtmlToken → Option Text
  | .opening _ attributes => attributes.lookup HtmlAttribute.href.name
  | _ => none

/-- The characters among tokens. -/
def characters (tokens : List HtmlToken) : Text :=
  tokens.filterMap char?

/-- The tokens up to the end of the first element of a kind. -/
def upTo (tag : HtmlTag) (tokens : List HtmlToken) : List HtmlToken :=
  tokens.takeWhile fun token => !token.closes tag

/-- The stretches behind the tokens that open elements of a kind, each up to the next such token. -/
def behindEach (tag : HtmlTag) : List HtmlToken → List (List HtmlToken)
  | [] => []
  | token :: tokens =>
    if token.opens tag then
      (tokens.takeWhile fun token => !token.opens tag) :: behindEach tag tokens
    else behindEach tag tokens

end HtmlToken

namespace Page

open HtmlToken

/-- A row of a table of members: what stands in its first cell, as it is written. -/
structure Row where
  /-- The declaration of the member. -/
  declaration : Text
  /-- The link that the declaration carries. -/
  link : Option Text
  deriving DecidableEq, Repr

/-- A table of members. -/
structure Table where
  /-- The heading above the table. -/
  heading : Text
  /-- The rows behind the one that names the columns. -/
  rows : List Row
  deriving DecidableEq, Repr

/-- The row in the tokens behind its opening tag. -/
def Row.ofTokens (tokens : List HtmlToken) : Row where
  declaration := characters (upTo .td tokens)
  link := (upTo .td tokens).findSome? href?

/-- The table in the tokens behind the opening tag of its heading. -/
def Table.ofTokens (tokens : List HtmlToken) : Table where
  heading := characters (upTo .h2 tokens)
  rows := (behindEach .tr tokens).tail.map Row.ofTokens

/-- The tables of members on a page. -/
def tables (t : Text) : List Table :=
  (behindEach .h2 (read t)).map Table.ofTokens

/-- All links on a page, as they are written. -/
def hrefs (t : Text) : List Text :=
  (read t).filterMap href?

end Page

/-! ## Stretches of tokens -/

namespace HtmlToken

variable {tag : HtmlTag} {head : HtmlToken} {front rest : List HtmlToken}

/-- Tokens in front of the first opening tag are behind none. -/
theorem behindEach_append (hfront : ∀ token ∈ front, token.opens tag = false) :
    behindEach tag (front ++ rest) = behindEach tag rest := by
  induction front with
  | nil => rfl
  | cons token front ih =>
      rw [List.forall_mem_cons] at hfront
      rw [List.cons_append, behindEach, if_neg (Bool.eq_false_iff.1 hfront.1), ih hfront.2]

/-- What is behind an opening tag reaches up to the next one. -/
theorem behindEach_cons_append (hhead : head.opens tag = true)
    (hfront : ∀ token ∈ front, token.opens tag = false) :
    behindEach tag (head :: (front ++ rest)) =
      (front ++ rest.takeWhile fun token => !token.opens tag) :: behindEach tag rest := by
  have hnot : ∀ token ∈ front, (!token.opens tag) = true := by
    intro token htoken
    rw [hfront token htoken]
    rfl
  rw [behindEach, if_pos hhead, List.takeWhile_append_of_pos hnot, behindEach_append hfront]

/-- The stretches in a sequence of blocks that all begin with the same token.  What a reader sees in
them must not depend on what follows the last block. -/
theorem map_behindEach {α β : Type} {see : List HtmlToken → α} {seen : β → α} {blocks : List β}
    {stretch : β → List HtmlToken} {back : List HtmlToken} (hhead : head.opens tag = true)
    (hstretch : ∀ block ∈ blocks, ∀ token ∈ stretch block, token.opens tag = false)
    (hback : ∀ token ∈ back, token.opens tag = false)
    (hsee : ∀ block ∈ blocks, see (stretch block) = seen block ∧
      see (stretch block ++ back) = seen block) :
    (behindEach tag ((blocks.flatMap fun block => head :: stretch block) ++ back)).map see =
      blocks.map seen := by
  induction blocks with
  | nil =>
      rw [List.flatMap_nil, List.nil_append, ← List.append_nil back, behindEach_append hback]
      rfl
  | cons block blocks ih =>
      rw [List.forall_mem_cons] at hstretch hsee
      rw [List.flatMap_cons, List.append_assoc, List.cons_append,
        behindEach_cons_append hhead hstretch.1, List.map_cons, List.map_cons,
        ih hstretch.2 hsee.2]
      congr 1
      cases blocks with
      | nil =>
          have hall : back.takeWhile (fun token => !token.opens tag) = back := by
            rw [List.takeWhile_eq_self_iff]
            intro token htoken
            rw [hback token htoken]
            rfl
          rw [List.flatMap_nil, List.nil_append, hall, hsee.1.2]
      | cons next blocks =>
          rw [List.flatMap_cons, List.cons_append, List.cons_append,
            List.takeWhile_cons_of_neg (by simp [hhead]), List.append_nil, hsee.1.1]

/-- What stands up to a closing tag ends in front of the first one. -/
theorem upTo_append_cons (hfront : ∀ token ∈ front, token.closes tag = false)
    (hhead : head.closes tag = true) : upTo tag (front ++ head :: rest) = front := by
  have hnot : ∀ token ∈ front, (!token.closes tag) = true := by
    intro token htoken
    rw [hfront token htoken]
    rfl
  rw [upTo, List.takeWhile_append_of_pos hnot, List.takeWhile_cons_of_neg (by simp [hhead]),
    List.append_nil]

/-- Characters close no tag. -/
theorem closes_map_char (t : Text) : ∀ token ∈ t.map char, token.closes tag = false := by
  intro token htoken
  obtain ⟨_, -, rfl⟩ := List.mem_map.1 htoken
  rfl

/-- There is no link among characters. -/
theorem findSome?_map_char (t : Text) : (t.map char).findSome? href? = none := by
  induction t with
  | nil => rfl
  | cons c t ih => exact ih

/-- The characters of tokens are those of their parts. -/
theorem characters_append (a b : List HtmlToken) :
    characters (a ++ b) = characters a ++ characters b :=
  List.filterMap_append

/-- The characters of a text are the text. -/
theorem characters_map_char (t : Text) : characters (t.map char) = t := by
  induction t with
  | nil => rfl
  | cons c t ih => exact congrArg (c :: ·) ih

end HtmlToken

/-! ## Tags of a piece -/

namespace Html

open HtmlToken

mutual

/-- The opening tags of a piece, with their attributes. -/
def tags : Html → List (HtmlTag × List (HtmlAttribute × Text))
  | text _ => []
  | element tag attributes children => (tag, attributes) :: tagsOfAll children
  | void tag attributes => [(tag, attributes)]

/-- The opening tags of several pieces. -/
def tagsOfAll : List Html → List (HtmlTag × List (HtmlAttribute × Text))
  | [] => []
  | piece :: pieces => piece.tags ++ tagsOfAll pieces

end

/-- The tags of pieces are those of each piece. -/
theorem tagsOfAll_eq (pieces : List Html) : tagsOfAll pieces = pieces.flatMap tags := by
  induction pieces with
  | nil => rfl
  | cons piece pieces ih => rw [tagsOfAll, ih, List.flatMap_cons]

/-- What holds of the tags of all pieces holds of those of each piece. -/
theorem forall_mem_tagsOfAll {p : HtmlTag × List (HtmlAttribute × Text) → Prop}
    {pieces : List Html} :
    (∀ entry ∈ tagsOfAll pieces, p entry) ↔ ∀ piece ∈ pieces, ∀ entry ∈ piece.tags, p entry := by
  simp only [tagsOfAll_eq, List.mem_flatMap]
  constructor
  · exact fun h piece hpiece entry hentry => h entry ⟨piece, hpiece, hentry⟩
  · rintro h entry ⟨piece, hpiece, hentry⟩
    exact h piece hpiece entry hentry

/-- The tokens of pieces are those of each piece. -/
theorem tokensOfAll_eq (pieces : List Html) : tokensOfAll pieces = pieces.flatMap tokens := by
  induction pieces with
  | nil => rfl
  | cons piece pieces ih => rw [tokensOfAll, ih, List.flatMap_cons]

mutual

/-- The opening tags that are read are those of the piece. -/
theorem exists_tag_of_mem_tokens {name : Text} {attributes : List (Text × Text)} :
    (piece : Html) → opening name attributes ∈ piece.tokens →
      ∃ entry ∈ piece.tags, name = entry.1.name ∧ attributes = attributeTexts entry.2
  | text t, h => by
      obtain ⟨_, -, hchar⟩ := List.mem_map.1 h
      cases hchar
  | element tag attributes' children, h => by
      rw [tokens, List.mem_cons, List.mem_append, List.mem_singleton] at h
      rcases h with h | h | h
      · cases h
        exact ⟨_, List.mem_cons_self, rfl, rfl⟩
      · obtain ⟨entry, hentry, heq⟩ := exists_tag_of_mem_tokensOfAll children h
        exact ⟨entry, List.mem_cons_of_mem _ hentry, heq⟩
      · cases h
  | void tag attributes', h => by
      cases List.mem_singleton.1 h
      exact ⟨_, List.mem_cons_self, rfl, rfl⟩

/-- An opening token of several pieces is that of one of their tags. -/
theorem exists_tag_of_mem_tokensOfAll {name : Text} {attributes : List (Text × Text)} :
    (pieces : List Html) → opening name attributes ∈ tokensOfAll pieces →
      ∃ entry ∈ tagsOfAll pieces, name = entry.1.name ∧ attributes = attributeTexts entry.2
  | piece :: pieces, h => by
      rcases List.mem_append.1 h with h | h
      · obtain ⟨entry, hentry, heq⟩ := exists_tag_of_mem_tokens piece h
        exact ⟨entry, List.mem_append_left _ hentry, heq⟩
      · obtain ⟨entry, hentry, heq⟩ := exists_tag_of_mem_tokensOfAll pieces h
        exact ⟨entry, List.mem_append_right _ hentry, heq⟩

end

/-- All elements that a page can have. -/
def allTags : List HtmlTag :=
  [.html, .head, .meta_, .title, .style, .body, .h1, .h2, .table, .tr, .th, .td, .code, .a, .p, .em,
    .ul, .li, .br]

/-- A tag is found by its name. -/
theorem find?_name (tag : HtmlTag) :
    allTags.find? (fun other => other.name == tag.name) = some tag := by
  cases tag <;> rfl

/-- Tags with the same name are the same. -/
theorem name_injective {tag tag' : HtmlTag} (h : tag.name = tag'.name) : tag = tag' :=
  Option.some.inj ((find?_name tag).symm.trans (h ▸ find?_name tag'))

/-- A piece without elements of a kind opens none when it is read. -/
theorem opens_of_mem_tokensOfAll {tag : HtmlTag} {pieces : List Html}
    (h : ∀ entry ∈ tagsOfAll pieces, entry.1 ≠ tag) :
    ∀ token ∈ tokensOfAll pieces, token.opens tag = false := by
  intro token htoken
  rcases token with ⟨name, attributes⟩ | _ | _
  · obtain ⟨entry, hentry, rfl, -⟩ := exists_tag_of_mem_tokensOfAll pieces htoken
    exact beq_eq_false_iff_ne.2 fun hname => h entry hentry (name_injective hname)
  · rfl
  · rfl

/-- The link of a tag is read from its attributes. -/
theorem lookup_attributeTexts (attributes : List (HtmlAttribute × Text)) :
    (attributeTexts attributes).lookup HtmlAttribute.href.name =
      (attributes.lookup .href).map Markup.escape := by
  induction attributes with
  | nil => rfl
  | cons pair attributes ih =>
      obtain ⟨key, value⟩ := pair
      cases key
      case href => rfl
      all_goals exact ih

/-- A text has no links. -/
theorem filterMap_href?_map_char (t : Text) : (t.map char).filterMap href? = [] := by
  rw [List.filterMap_map, List.filterMap_eq_nil_iff]
  exact fun _ _ => rfl

/-- The link that a tag is written with. -/
def writtenLink (entry : HtmlTag × List (HtmlAttribute × Text)) : Option Text :=
  (entry.2.lookup .href).map Markup.escape

/-- The link of an opening token is the one that was written for its tag. -/
theorem href?_opening (tag : HtmlTag) (attributes : List (HtmlAttribute × Text)) :
    (opening tag.name (attributeTexts attributes)).href? = writtenLink (tag, attributes) :=
  lookup_attributeTexts attributes

mutual

/-- The links that are read are those of the tags. -/
theorem filterMap_href?_tokens :
    (piece : Html) → piece.tokens.filterMap href? = piece.tags.filterMap writtenLink
  | text t => by
      rw [tokens, tags, filterMap_href?_map_char]
      rfl
  | element tag attributes children => by
      rw [tokens, tags, List.filterMap_cons, List.filterMap_cons, href?_opening,
        List.filterMap_append, filterMap_href?_tokensOfAll children, List.filterMap_cons_none rfl,
        List.filterMap_nil, List.append_nil]
  | void tag attributes => by
      rw [tokens, tags, List.filterMap_cons, List.filterMap_cons, href?_opening]
      rfl

/-- The links of pieces are those that were written for their tags. -/
theorem filterMap_href?_tokensOfAll :
    (pieces : List Html) →
      (tokensOfAll pieces).filterMap href? = (tagsOfAll pieces).filterMap writtenLink
  | [] => rfl
  | piece :: pieces => by
      rw [tokensOfAll, tagsOfAll, List.filterMap_append, List.filterMap_append,
        filterMap_href?_tokens piece, filterMap_href?_tokensOfAll pieces]

end

/-- The tags of an element are its own and those inside. -/
@[simp] theorem tags_simple (tag : HtmlTag) (children : List Html) :
    (simple tag children).tags = (tag, []) :: tagsOfAll children :=
  rfl

/-- An element that holds a text has one tag. -/
@[simp] theorem tags_leaf (tag : HtmlTag) (t : Text) : (leaf tag t).tags = [(tag, [])] :=
  rfl

/-- The tags of a block are its own and those inside. -/
@[simp] theorem tags_block (tag : HtmlTag) (children : List Html) :
    (block tag children).tags = (tag, []) :: tagsOfAll children := by
  rw [block, tags_simple, tagsOfAll_eq, tagsOfAll_eq, List.flatMap_cons, List.flatMap_assoc]
  congr 1
  exact List.flatMap_congr fun child _ => List.append_nil _

/-- An element is what it holds between its two tags. -/
@[simp] theorem tokens_simple (tag : HtmlTag) (children : List Html) :
    (simple tag children).tokens =
      opening tag.name [] :: (tokensOfAll children ++ [closing tag.name]) :=
  rfl

/-- An element that holds a text is the escaped text between its two tags. -/
@[simp] theorem tokens_leaf (tag : HtmlTag) (t : Text) :
    (leaf tag t).tokens =
      opening tag.name [] :: ((Markup.escape t).map char ++ [closing tag.name]) := by
  rw [leaf, tokens_simple, tokensOfAll, tokensOfAll, List.append_nil, tokens]

/-- The tokens of pieces that stand on lines of their own. -/
def tokensOfLines (pieces : List Html) : List HtmlToken :=
  pieces.flatMap fun piece => piece.tokens ++ [char '\n']

/-- The lines of pieces one after the other are the lines of each of them. -/
theorem tokensOfLines_flatMap {α : Type} (items : List α) (pieces : α → List Html) :
    tokensOfLines (items.flatMap pieces) = items.flatMap fun item => tokensOfLines (pieces item) :=
  List.flatMap_assoc

/-- A block is its lines between its two tags. -/
@[simp] theorem tokens_block (tag : HtmlTag) (children : List Html) :
    (block tag children).tokens =
      opening tag.name [] :: char '\n' :: (tokensOfLines children ++ [closing tag.name]) := by
  rw [block, tokens_simple, tokensOfAll, tokensOfAll_eq, List.flatMap_assoc, tokensOfLines]
  rfl

end Html

namespace Page

open HtmlToken Html

/-! ## Rows -/

/-- The declaration in a row, with its link. -/
def linked (element : Element) (link : Option Text) : Html :=
  match link with
  | none => .text (signature element)
  | some link => .element .a [(.href, link)] [.text (signature element)]

/-- The cells of the row of a member. -/
def memberCells (element : Element) (link : Option Text) : List Html :=
  [.simple .td [.element .code (styleClass element) [linked element link]],
    .simple .td (describe (DocComment.ofText element.summary))]

/-- The row of a member is made of its cells. -/
theorem memberRow_eq (element : Element) (link : Option Text) :
    memberRow element link = .simple .tr (memberCells element link) := by
  cases link <;> rfl

/-- The row that a reader sees for a member. -/
def rowOf (element : Element) (link : Option Text) : Row where
  declaration := Markup.escape (signature element)
  link := link.map Markup.escape

/-- The class of a declaration is no link. -/
theorem lookup_styleClass (element : Element) : (styleClass element).lookup .href = none := by
  unfold styleClass
  split <;> rfl

/-- Without a link the declaration stands alone. -/
theorem tokens_linked_none (element : Element) :
    (linked element none).tokens = (Markup.escape (signature element)).map char := by
  rw [linked, tokens]

/-- With a link the declaration stands between the tags of the link. -/
theorem tokens_linked_some (element : Element) (link : Text) :
    (linked element (some link)).tokens =
      opening HtmlTag.a.name [(HtmlAttribute.href.name, Markup.escape link)] ::
        ((Markup.escape (signature element)).map char ++ [closing HtmlTag.a.name]) := by
  rw [linked, tokens, tokensOfAll, tokensOfAll, tokens, List.append_nil]
  rfl

/-- The declaration of a member does not end its cell. -/
theorem closes_linked (element : Element) (link : Option Text) :
    ∀ token ∈ (linked element link).tokens, token.closes .td = false := by
  rcases link with _ | link
  · rw [tokens_linked_none]
    exact closes_map_char _
  · rw [tokens_linked_some, List.forall_mem_cons, List.forall_mem_append, List.forall_mem_singleton]
    exact ⟨rfl, closes_map_char _, rfl⟩

/-- The characters in the cell are those of the declaration, linked or not. -/
theorem characters_linked (element : Element) (link : Option Text) :
    characters (linked element link).tokens = Markup.escape (signature element) := by
  rcases link with _ | link
  · rw [tokens_linked_none, characters_map_char]
  · rw [tokens_linked_some, characters, List.filterMap_cons_none rfl, ← characters,
      characters_append, characters_map_char]
    exact List.append_nil _

/-- The link in the cell is the escaped link of the member. -/
theorem findSome?_linked (element : Element) (link : Option Text) :
    (linked element link).tokens.findSome? href? = link.map Markup.escape := by
  rcases link with _ | link
  · rw [tokens_linked_none, findSome?_map_char]
    rfl
  · rw [tokens_linked_some]
    rfl

/-- What is read of a row, whatever follows it. -/
theorem ofTokens_memberCells (element : Element) (link : Option Text) (rest : List HtmlToken) :
    Row.ofTokens (tokensOfAll (memberCells element link) ++ rest) = rowOf element link := by
  have hclass : (HtmlToken.opening HtmlTag.code.name
      (attributeTexts (styleClass element))).href? = none := by
    rw [href?, lookup_attributeTexts, lookup_styleClass]
    rfl
  have hcell : tokensOfAll (memberCells element link) ++ rest =
      (opening HtmlTag.td.name [] ::
        opening HtmlTag.code.name (attributeTexts (styleClass element)) ::
          ((linked element link).tokens ++ [closing HtmlTag.code.name])) ++
        closing HtmlTag.td.name ::
          ((simple .td (describe (DocComment.ofText element.summary))).tokens ++ rest) := by
    simp [memberCells, tokens, tokensOfAll]
  rw [hcell, Row.ofTokens, upTo_append_cons, rowOf]
  · congr 1
    · rw [characters, List.filterMap_cons_none rfl, List.filterMap_cons_none rfl, ← characters,
        characters_append, characters_linked]
      exact List.append_nil _
    · rw [List.findSome?_cons_of_isNone rfl, List.findSome?_cons_of_isNone, List.findSome?_append,
        findSome?_linked]
      · cases link <;> rfl
      · rw [hclass]
        rfl
  · rw [List.forall_mem_cons, List.forall_mem_cons, List.forall_mem_append,
      List.forall_mem_singleton]
    exact ⟨rfl, rfl, closes_linked element link, rfl⟩
  · rfl

/-! ## Tags of members -/

/-- The documentation of a member holds no tables, headings and links. -/
theorem tags_describe (doc : DocComment) :
    ∀ entry ∈ tagsOfAll (describe doc),
      entry.1 ∈ [HtmlTag.ul, .li, .code, .br] ∧ entry.2 = [] := by
  have hparams : ∀ entry ∈ tagsOfAll (doc.params.map paramItem),
      entry.1 ∈ [HtmlTag.ul, .li, .code, .br] ∧ entry.2 = [] := by
    rw [forall_mem_tagsOfAll, List.forall_mem_map]
    intro param _
    rw [paramItem, tags_simple]
    simp [tagsOfAll, tags]
  simp only [describe, forall_mem_tagsOfAll, List.forall_mem_append, List.forall_mem_singleton]
  refine ⟨⟨by simp [tags], ?_⟩, ?_⟩
  · split_ifs
    · simp
    · rw [List.forall_mem_singleton, tags_simple, List.forall_mem_cons]
      exact ⟨by simp, hparams⟩
  · split_ifs
    · simp
    · simp [tags]

/-- In the cell of a declaration there are no tags but that of a link. -/
theorem tags_linked (element : Element) (link : Option Text) :
    ∀ entry ∈ (linked element link).tags, entry.1 = .a := by
  cases link <;> simp [linked, tags, tagsOfAll]

/-- The row of a member holds no other rows and no headings. -/
theorem tags_memberCells (element : Element) (link : Option Text) :
    ∀ entry ∈ tagsOfAll (memberCells element link), entry.1 ≠ .tr ∧ entry.1 ≠ .h2 := by
  have hlinked : ∀ entry ∈ (linked element link).tags, entry.1 ≠ .tr ∧ entry.1 ≠ .h2 := by
    intro entry hentry
    rw [tags_linked element link entry hentry]
    decide
  have hdescribe : ∀ entry ∈ tagsOfAll (describe (DocComment.ofText element.summary)),
      entry.1 ≠ .tr ∧ entry.1 ≠ .h2 := by
    intro entry hentry
    have hmem := (tags_describe _ entry hentry).1
    constructor <;> rintro heq <;> rw [heq] at hmem <;> revert hmem <;> decide
  rw [memberCells, forall_mem_tagsOfAll, List.forall_mem_cons, List.forall_mem_singleton]
  simp only [tags_simple, tags, tagsOfAll, List.append_nil, List.forall_mem_cons]
  exact ⟨⟨by decide, by decide, hlinked⟩, by decide, hdescribe⟩

/-- What a page says about its own element holds no tables of members and no links. -/
theorem tags_introduction (options : ExportOptions) (label : Text) (element : Option Element) :
    ∀ entry ∈ tagsOfAll (introduction options label element), entry.1 ≠ .h2 ∧ entry.2 = [] := by
  rcases element with _ | element
  · simp [introduction, tagsOfAll]
  · have hfacts : ∀ entry ∈ tagsOfAll ((facts options element).map factRow),
        entry.1 ≠ .h2 ∧ entry.2 = [] := by
      rw [forall_mem_tagsOfAll, List.forall_mem_map]
      intro fact _
      rw [factRow, tags_simple]
      simp [tagsOfAll]
    rw [introduction, forall_mem_tagsOfAll, List.forall_mem_cons, details, List.forall_mem_append,
      List.forall_mem_append, List.forall_mem_singleton, tags_block, List.forall_mem_cons]
    refine ⟨by simp, ⟨⟨by simp, hfacts⟩, ?_⟩, ?_⟩
    · split_ifs <;> simp
    · split_ifs
      · simp
      · rw [List.forall_mem_singleton, tags_simple, List.forall_mem_cons]
        simp [tagsOfAll]

/-! ## Tables -/

/-- The cells that name the columns of a table. -/
def headCells : List Html :=
  [.leaf .th "Declaration", .leaf .th "Description"]

/-- What stands behind the tag that opens a row. -/
def rowStretch (cells : List Html) : List HtmlToken :=
  tokensOfAll cells ++ [closing HtmlTag.tr.name, char '\n']

variable (links : List (NodeId × Text))

/-- What stands behind the tag that opens the heading of a table. -/
def tableStretch (heading : Text) (members : List (NodeId × Element)) : List HtmlToken :=
  (Markup.escape heading).map char ++ closing HtmlTag.h2.name ::
    ([char '\n', opening HtmlTag.table.name [], char '\n'] ++
      opening HtmlTag.tr.name [] :: (rowStretch headCells ++
        ((members.flatMap fun member => opening HtmlTag.tr.name [] ::
          rowStretch (memberCells member.2 (links.lookup member.1))) ++
        [closing HtmlTag.table.name, char '\n'])))

/-- A group has a heading and a table with a row for each member; of an empty group nothing is
shown. -/
theorem memberTable_eq (children : List Branch) (group : Kind × Text) :
    memberTable children links group =
      if (membersOf group.1 children).isEmpty then []
      else
        [.leaf .h2 group.2,
          .block .table (.simple .tr headCells ::
            (membersOf group.1 children).map fun member =>
              .simple .tr (memberCells member.2 (links.lookup member.1)))] := by
  unfold memberTable
  simp only [memberRow_eq]
  rfl

/-- The tokens of a group begin with its heading; an empty group has none. -/
theorem tokens_memberTable (children : List Branch) (group : Kind × Text) :
    tokensOfLines (memberTable children links group) =
      if (membersOf group.1 children).isEmpty then []
      else opening HtmlTag.h2.name [] ::
        tableStretch links group.2 (membersOf group.1 children) := by
  rw [memberTable_eq]
  split_ifs
  · rfl
  · simp only [tokensOfLines, List.flatMap_cons, List.flatMap_nil, tokens_leaf, tokens_block,
      tokens_simple, List.flatMap_map, tableStretch, rowStretch, List.append_assoc,
      List.cons_append, List.nil_append, List.append_nil]

/-- A row opens no tags but those of its cells. -/
theorem opens_rowStretch {tag : HtmlTag} {cells : List Html}
    (h : ∀ entry ∈ tagsOfAll cells, entry.1 ≠ tag) :
    ∀ token ∈ rowStretch cells, token.opens tag = false := by
  rw [rowStretch, List.forall_mem_append]
  refine ⟨opens_of_mem_tokensOfAll h, ?_⟩
  simp [opens]

/-- The cells of the head have no tags but those of heads, without attributes. -/
theorem tags_headCells : ∀ entry ∈ tagsOfAll headCells, entry.1 = .th ∧ entry.2 = [] := by
  simp [headCells, tagsOfAll]

/-- What is read of a table, whatever follows it without opening a row. -/
theorem ofTokens_tableStretch (heading : Text) (members : List (NodeId × Element))
    {back : List HtmlToken} (hback : ∀ token ∈ back, token.opens .tr = false) :
    Table.ofTokens (tableStretch links heading members ++ back) =
      { heading := Markup.escape heading
        rows := members.map fun member => rowOf member.2 (links.lookup member.1) } := by
  have hheading : upTo .h2 (tableStretch links heading members ++ back) =
      (Markup.escape heading).map char := by
    rw [tableStretch, List.append_assoc, List.cons_append]
    exact upTo_append_cons (closes_map_char _) rfl
  have hrows : ((behindEach .tr (tableStretch links heading members ++ back)).tail).map
      Row.ofTokens = members.map fun member => rowOf member.2 (links.lookup member.1) := by
    have hshape : tableStretch links heading members ++ back =
        ((Markup.escape heading).map char ++ closing HtmlTag.h2.name ::
          [char '\n', opening HtmlTag.table.name [], char '\n']) ++
        opening HtmlTag.tr.name [] :: (rowStretch headCells ++
          ((members.flatMap fun member => opening HtmlTag.tr.name [] ::
            rowStretch (memberCells member.2 (links.lookup member.1))) ++
          ([closing HtmlTag.table.name, char '\n'] ++ back))) := by
      simp only [tableStretch, List.append_assoc, List.cons_append, List.nil_append]
    have hfront : ∀ token ∈ (Markup.escape heading).map char ++
        closing HtmlTag.h2.name :: [char '\n', opening HtmlTag.table.name [], char '\n'],
        token.opens .tr = false := by
      rw [List.forall_mem_append, List.forall_mem_map]
      exact ⟨fun _ _ => rfl, by decide⟩
    have hhead : ∀ entry ∈ tagsOfAll headCells, entry.1 ≠ .tr := by
      intro entry hentry
      rw [(tags_headCells entry hentry).1]
      decide
    rw [hshape, behindEach_append hfront, behindEach_cons_append rfl (opens_rowStretch hhead),
      List.tail_cons]
    apply map_behindEach
    · rfl
    · intro member _
      exact opens_rowStretch fun entry hentry => (tags_memberCells _ _ entry hentry).1
    · rw [List.forall_mem_append]
      exact ⟨by decide, hback⟩
    · intro member _
      rw [rowStretch, List.append_assoc]
      exact ⟨ofTokens_memberCells _ _ _, ofTokens_memberCells _ _ _⟩
  rw [Table.ofTokens, hheading, hrows, characters_map_char]

/-! ## Pages -/

/-- The groups of which a page has members. -/
def filledGroups (children : List Branch) : List (Kind × Text) :=
  groups.filter fun group => !(membersOf group.1 children).isEmpty

/-- The head of a page. -/
def headPiece (label : Text) : Html :=
  .block .head [.void .meta_ [(.charset, "utf-8")], .leaf .title label, .leaf .style styleSheet]

/-- The tokens in front of the tables of a page. -/
def frontTokens (options : ExportOptions) (branch : Branch) : List HtmlToken :=
  opening "!DOCTYPE" [] :: char '\n' :: opening HtmlTag.html.name [] :: char '\n' ::
    (tokensOfAll [headPiece branch.label] ++
      (char '\n' :: opening HtmlTag.body.name [] :: char '\n' ::
        tokensOfLines (introduction options branch.label branch.element)))

/-- The tokens behind the tables of a page. -/
def backTokens : List HtmlToken :=
  [closing HtmlTag.body.name, char '\n', closing HtmlTag.html.name, char '\n']

/-- The tables of a page are those of the groups that have members. -/
theorem flatMap_memberTable (children : List Branch) :
    tokensOfLines (groups.flatMap (memberTable children links)) =
      (filledGroups children).flatMap fun group =>
        opening HtmlTag.h2.name [] ::
          tableStretch links group.2 (membersOf group.1 children) := by
  rw [tokensOfLines_flatMap, filledGroups]
  simp only [tokens_memberTable]
  induction groups with
  | nil => rfl
  | cons group groups ih =>
      rw [List.flatMap_cons, ih, List.filter_cons]
      by_cases hempty : (membersOf group.1 children).isEmpty = true
      · rw [if_pos hempty, if_neg (by simp [hempty]), List.nil_append]
      · rw [if_neg hempty, if_pos (by simp [hempty]), List.flatMap_cons]

/-- The first line of a page is read as an opening token and a line break. -/
theorem read_doctype (rest : Text) :
    read (("<!DOCTYPE html>\n" : Text) ++ rest) =
      opening "!DOCTYPE" [] :: char '\n' :: read rest := by
  have hshape : ("<!DOCTYPE html>\n" : Text) ++ rest =
      '<' :: (("!DOCTYPE html" : Text) ++ '>' :: (['\n'] ++ rest)) := by
    simp
  have htag : ofTag "!DOCTYPE html" = opening "!DOCTYPE" [] := by decide
  rw [hshape, read_tag (by decide), htag, read_append_of_text (by decide)]
  rfl

/-- **The tokens of a page**. -/
theorem read_page (options : ExportOptions) (branch : Branch) :
    read (render options branch links) =
      frontTokens options branch ++
        (((filledGroups branch.children).flatMap fun group =>
          opening HtmlTag.h2.name [] ::
            tableStretch links group.2 (membersOf group.1 branch.children)) ++
        backTokens) := by
  have hend : read ("\n" : Text) = [char '\n'] := by decide
  have hrender : render options branch links =
      "<!DOCTYPE html>\n" ++ ((html options branch links).render ++ "\n") :=
    List.append_assoc _ _ _
  rw [hrender, read_doctype, read_render_append, hend, html, ← headPiece, ← flatMap_memberTable,
    frontTokens, backTokens]
  simp only [tokens_block, tokensOfLines, List.flatMap_cons, List.flatMap_nil,
    List.flatMap_append, tokensOfAll, List.append_assoc, List.cons_append, List.nil_append,
    List.append_nil]

/-- Lines open no tags but those of their pieces. -/
theorem opens_tokensOfLines {tag : HtmlTag} {pieces : List Html}
    (h : ∀ entry ∈ tagsOfAll pieces, entry.1 ≠ tag) :
    ∀ token ∈ tokensOfLines pieces, token.opens tag = false := by
  intro token htoken
  obtain ⟨piece, hpiece, htoken⟩ := List.mem_flatMap.1 htoken
  rcases List.mem_append.1 htoken with htoken | htoken
  · refine opens_of_mem_tokensOfAll h token ?_
    rw [tokensOfAll_eq]
    exact List.mem_flatMap.2 ⟨piece, hpiece, htoken⟩
  · cases List.mem_singleton.1 htoken
    rfl

/-- The head of a page holds no heading of a table and no link. -/
theorem tags_headPiece (label : Text) :
    ∀ entry ∈ tagsOfAll [headPiece label], entry.1 ≠ .h2 ∧ entry.2.lookup .href = none := by
  rw [tagsOfAll, tagsOfAll, List.append_nil, headPiece, tags_block, List.forall_mem_cons]
  simp [tagsOfAll, tags]

/-- In front of the tables no heading of a table is opened. -/
theorem opens_frontTokens (options : ExportOptions) (branch : Branch) :
    ∀ token ∈ frontTokens options branch, token.opens .h2 = false := by
  have hhead := opens_of_mem_tokensOfAll fun entry hentry =>
    (tags_headPiece branch.label entry hentry).1
  have hintroduction := opens_tokensOfLines fun entry hentry =>
    (tags_introduction options branch.label branch.element entry hentry).1
  simp only [frontTokens, List.forall_mem_cons, List.forall_mem_append]
  exact ⟨by decide, rfl, by decide, rfl, hhead, rfl, by decide, rfl, hintroduction⟩

/-- Inside a table no heading of a table is opened. -/
theorem opens_tableStretch (heading : Text) (members : List (NodeId × Element)) :
    ∀ token ∈ tableStretch links heading members, token.opens .h2 = false := by
  have hhead : ∀ token ∈ rowStretch headCells, token.opens .h2 = false := by
    refine opens_rowStretch fun entry hentry => ?_
    rw [(tags_headCells entry hentry).1]
    decide
  have hmember (member : NodeId × Element) :
      ∀ token ∈ rowStretch (memberCells member.2 (links.lookup member.1)),
        token.opens .h2 = false :=
    opens_rowStretch fun entry hentry => (tags_memberCells _ _ entry hentry).2
  simp only [tableStretch, List.forall_mem_cons, List.forall_mem_append, List.forall_mem_map]
  refine ⟨fun _ _ => rfl, rfl, by decide, by decide, hhead, ?_, by decide⟩
  intro token htoken
  obtain ⟨member, -, htoken⟩ := List.mem_flatMap.1 htoken
  rcases List.mem_cons.1 htoken with rfl | htoken
  · decide
  · exact hmember member token htoken

/-- **The tables of a page.**  There is one for each kind of which there are documented members, in
the order of the kinds, and it has one row for each of them. -/
theorem tables_render (options : ExportOptions) (branch : Branch) :
    tables (render options branch links) =
      (filledGroups branch.children).map fun group =>
        { heading := group.2
          rows := (membersOf group.1 branch.children).map fun member =>
            rowOf member.2 (links.lookup member.1) } := by
  have hheading : ∀ group ∈ filledGroups branch.children, Markup.escape group.2 = group.2 := by
    intro group hgroup
    exact (by decide : ∀ group ∈ groups, Markup.escape group.2 = group.2) group
      (List.mem_of_mem_filter hgroup)
  rw [tables, read_page, behindEach_append (opens_frontTokens options branch)]
  apply map_behindEach
  · rfl
  · exact fun group _ => opens_tableStretch links group.2 _
  · decide
  · intro group hgroup
    have hread (back : List HtmlToken) (hback : ∀ token ∈ back, token.opens .tr = false) :=
      ofTokens_tableStretch links group.2 (membersOf group.1 branch.children) hback
    rw [hheading group hgroup] at hread
    have hnil := hread [] (by simp)
    rw [List.append_nil] at hnil
    exact ⟨hnil, hread backTokens (by decide)⟩

/-! ## Links -/

/-- There is no link on tags without one. -/
theorem filterMap_writtenLink {entries : List (HtmlTag × List (HtmlAttribute × Text))}
    (h : ∀ entry ∈ entries, entry.2.lookup .href = none) :
    entries.filterMap writtenLink = [] := by
  rw [List.filterMap_eq_nil_iff]
  intro entry hentry
  rw [writtenLink, h entry hentry]
  rfl

/-- The links in lines are those that were written for the tags of the pieces. -/
theorem filterMap_href?_tokensOfLines (pieces : List Html) :
    (tokensOfLines pieces).filterMap href? = (tagsOfAll pieces).filterMap writtenLink := by
  induction pieces with
  | nil => rfl
  | cons piece pieces ih =>
      rw [tokensOfLines] at ih ⊢
      rw [List.flatMap_cons, List.filterMap_append, ih, List.filterMap_append,
        filterMap_href?_tokens, tagsOfAll, List.filterMap_append]
      exact congrArg (· ++ _) (List.append_nil _)

/-- A row has the link of its member and no other. -/
theorem filterMap_href?_memberCells (element : Element) (link : Option Text) :
    (tokensOfAll (memberCells element link)).filterMap href? =
      (link.map Markup.escape).toList := by
  have hclass : writtenLink (.code, styleClass element) = none := by
    rw [writtenLink, lookup_styleClass]
    rfl
  have hlinked : (linked element link).tags.filterMap writtenLink =
      (link.map Markup.escape).toList := by
    cases link <;> rfl
  have hdescribe : (tagsOfAll (describe (DocComment.ofText element.summary))).filterMap
      writtenLink = [] := by
    refine filterMap_writtenLink fun entry hentry => ?_
    rw [(tags_describe _ entry hentry).2]
    rfl
  rw [filterMap_href?_tokensOfAll, memberCells]
  simp only [tags_simple, tags, tagsOfAll, List.append_nil, List.cons_append]
  rw [List.filterMap_cons_none rfl, List.filterMap_cons_none hclass, List.filterMap_append,
    List.filterMap_cons_none rfl, hlinked, hdescribe, List.append_nil]

/-- The links of a row are those of its cells. -/
theorem filterMap_href?_rowStretch (cells : List Html) :
    (rowStretch cells).filterMap href? = (tokensOfAll cells).filterMap href? := by
  rw [rowStretch, List.filterMap_append]
  exact List.append_nil _

/-- The links of a table are those of its members, in their order. -/
theorem filterMap_href?_tableStretch (heading : Text) (members : List (NodeId × Element)) :
    (tableStretch links heading members).filterMap href? =
      members.filterMap fun member => (links.lookup member.1).map Markup.escape := by
  have hhead : (rowStretch headCells).filterMap href? = [] := by
    rw [filterMap_href?_rowStretch, filterMap_href?_tokensOfAll]
    refine filterMap_writtenLink fun entry hentry => ?_
    rw [(tags_headCells entry hentry).2]
    rfl
  have hrows : (members.flatMap fun member => opening HtmlTag.tr.name [] ::
      rowStretch (memberCells member.2 (links.lookup member.1))).filterMap href? =
      members.filterMap fun member => (links.lookup member.1).map Markup.escape := by
    rw [List.filterMap_flatMap, List.filterMap_eq_flatMap_toList]
    refine List.flatMap_congr fun member _ => ?_
    rw [List.filterMap_cons_none rfl, filterMap_href?_rowStretch, filterMap_href?_memberCells]
  have hfront : [char '\n', opening HtmlTag.table.name [], char '\n'].filterMap href? = [] := by
    decide
  have hback : [closing HtmlTag.table.name, char '\n'].filterMap href? = [] := by decide
  rw [tableStretch, List.filterMap_append, filterMap_href?_map_char, List.nil_append,
    List.filterMap_cons_none rfl, List.filterMap_append, hfront, List.nil_append,
    List.filterMap_cons_none rfl, List.filterMap_append, hhead, List.nil_append,
    List.filterMap_append, hrows, hback, List.append_nil]

/-- In front of the tables there are no links. -/
theorem filterMap_href?_frontTokens (options : ExportOptions) (branch : Branch) :
    (frontTokens options branch).filterMap href? = [] := by
  have hhead : (tokensOfAll [headPiece branch.label]).filterMap href? = [] := by
    rw [filterMap_href?_tokensOfAll]
    exact filterMap_writtenLink fun entry hentry => (tags_headPiece branch.label entry hentry).2
  have hintroduction : (tokensOfLines (introduction options branch.label
      branch.element)).filterMap href? = [] := by
    rw [filterMap_href?_tokensOfLines]
    refine filterMap_writtenLink fun entry hentry => ?_
    rw [(tags_introduction _ _ _ entry hentry).2]
    rfl
  rw [frontTokens]
  simp only [List.filterMap_cons, List.filterMap_append, hhead, hintroduction]
  rfl

/-- **The links of a page** are those in its tables. -/
theorem hrefs_render (options : ExportOptions) (branch : Branch) :
    hrefs (render options branch links) =
      (tables (render options branch links)).flatMap fun table =>
        table.rows.filterMap Row.link := by
  rw [tables_render, hrefs, read_page, List.filterMap_append, filterMap_href?_frontTokens,
    List.nil_append, List.filterMap_append, List.filterMap_flatMap, List.flatMap_map]
  have hback : backTokens.filterMap href? = [] := by decide
  rw [hback, List.append_nil]
  refine List.flatMap_congr fun group _ => ?_
  rw [List.filterMap_cons_none rfl, filterMap_href?_tableStretch, List.filterMap_map]
  rfl

end Page

end DeclAtlas
