import Mathlib
import DeclAtlas.Proofs.Page.Table

/-!
# Pages cannot be broken

Labels, types, default values, documentation and links come from sources and may hold any
characters.  On a page they stand between tags and in one attribute.

**Theorem** (`Page.render_wellNested`): whatever they hold, a page consists of tags of the template
and of characters that are no angle brackets, its elements are closed in the order in which they
were opened, and the only attribute with a text of its own is `href`, whose value has no quotes.

A page is built as a tree, so this is shown for trees (`Html.Fits`), one constructor after the
other, and then for the pieces of a page.
-/

namespace DeclAtlas

/-! ## The template -/

namespace HtmlTag

/-- Whether the element has no content and so no closing tag. -/
@[simp] def isVoid : HtmlTag → Bool
  | meta_ | br => true
  | _ => false

/-- The attributes that an element has, as they are written.  Only links hold a text of their
own. -/
@[simp] def Takes (attributes : List (Text × Text)) : HtmlTag → Prop
  | meta_ => attributes = [("charset".toList, "utf-8".toList)]
  | code =>
    attributes = [] ∨ attributes = [("class".toList, "abstract".toList)] ∨
      attributes = [("class".toList, "static".toList)]
  | a => ∃ value : Text, attributes = [("href".toList, value)] ∧
      '<' ∉ value ∧ '>' ∉ value ∧ '"' ∉ value ∧ '\'' ∉ value
  | _ => attributes = []

end HtmlTag

namespace HtmlToken

/-- A token as it is written. -/
def write : HtmlToken → Text
  | opening name attributes =>
    "<" ++ name ++
      attributes.flatMap (fun pair => [' '] ++ pair.1 ++ ['=', '"'] ++ pair.2 ++ ['"']) ++ ">"
  | closing name => "</" ++ name ++ ">"
  | char c => [c]

/-- The tokens of the template.  An angle bracket is never a token of its own. -/
def FromTemplate : HtmlToken → Prop
  | opening name attributes => ∃ tag : HtmlTag, name = tag.name ∧ tag.Takes attributes
  | closing name => ∃ tag : HtmlTag, name = tag.name ∧ tag.isVoid = false
  | char c => c ≠ '<' ∧ c ≠ '>'

/-- The elements that are open behind the tokens, the innermost first; `opened` are those in front
of them.  There is no answer if a closing tag is not that of the innermost open element. -/
def openAfter? (opened : List Text) : List HtmlToken → Option (List Text)
  | [] => some opened
  | char _ :: tokens => openAfter? opened tokens
  | opening name _ :: tokens =>
    if name = HtmlTag.meta_.name ∨ name = HtmlTag.br.name then openAfter? opened tokens
    else openAfter? (name :: opened) tokens
  | closing name :: tokens =>
    match opened with
    | [] => none
    | innermost :: outer => if name = innermost then openAfter? outer tokens else none

/-- A text opens and closes nothing. -/
theorem openAfter?_map_char (opened : List Text) (t : Text) (rest : List HtmlToken) :
    openAfter? opened (t.map char ++ rest) = openAfter? opened rest := by
  induction t with
  | nil => rfl
  | cons c t ih => exact ih

/-- A closing tag closes the element that was opened last. -/
theorem openAfter?_closing (name : Text) (opened : List Text) (rest : List HtmlToken) :
    openAfter? (name :: opened) (closing name :: rest) = openAfter? opened rest := by
  rw [openAfter?]
  exact if_pos rfl

/-- An opening tag opens its element, unless it is void. -/
theorem openAfter?_opening (opened : List Text) (tag : HtmlTag) (attributes : List (Text × Text))
    (rest : List HtmlToken) :
    openAfter? opened (opening tag.name attributes :: rest) =
      openAfter? (if tag.isVoid then opened else tag.name :: opened) rest := by
  have hvoid : (tag.name = HtmlTag.meta_.name ∨ tag.name = HtmlTag.br.name) ↔
      tag.isVoid = true := by
    cases tag <;> decide
  rw [openAfter?]
  by_cases h : tag.isVoid = true
  · rw [if_pos (hvoid.2 h), if_pos h]
  · rw [if_neg fun hname => h (hvoid.1 hname), if_neg h]

end HtmlToken

/-! ## Trees -/

namespace Html

open HtmlToken

mutual

/-- Whether the elements of a piece have closing tags and attributes as the template says. -/
def Fits : Html → Prop
  | text _ => True
  | element tag attributes children =>
    tag.isVoid = false ∧ tag.Takes (attributeTexts attributes) ∧ FitsAll children
  | void tag attributes => tag.isVoid = true ∧ tag.Takes (attributeTexts attributes)

/-- Whether all pieces fit. -/
def FitsAll : List Html → Prop
  | [] => True
  | piece :: pieces => piece.Fits ∧ FitsAll pieces

end

mutual

/-- The text of a piece without its tags. -/
def content : Html → Text
  | text t => t
  | element _ _ children => contentOfAll children
  | void _ _ => []

/-- The text of several pieces. -/
def contentOfAll : List Html → Text
  | [] => []
  | piece :: pieces => piece.content ++ contentOfAll pieces

end

/-- Pieces fit if each of them does. -/
theorem fitsAll_iff {pieces : List Html} : FitsAll pieces ↔ ∀ piece ∈ pieces, piece.Fits := by
  induction pieces with
  | nil => simp [FitsAll]
  | cons piece pieces ih => simp [FitsAll, ih]

/-- Pieces fit if the first one and the other ones do. -/
@[simp] theorem fitsAll_cons (piece : Html) (pieces : List Html) :
    FitsAll (piece :: pieces) ↔ piece.Fits ∧ FitsAll pieces := by
  simp [FitsAll]

/-- The empty list of pieces fits. -/
@[simp] theorem fitsAll_nil : FitsAll [] := by
  simp [FitsAll]

/-- Pieces fit if both parts of the list do. -/
@[simp] theorem fitsAll_append (a b : List Html) : FitsAll (a ++ b) ↔ FitsAll a ∧ FitsAll b := by
  simp only [fitsAll_iff, List.forall_mem_append]

/-- Pieces that are all made the same way fit if each of them does. -/
theorem fitsAll_map {α : Type} {items : List α} {piece : α → Html}
    (h : ∀ item, (piece item).Fits) : FitsAll (items.map piece) := by
  rw [fitsAll_iff, List.forall_mem_map]
  exact fun item _ => h item

/-- Every text fits. -/
@[simp] theorem fits_text (t : Text) : (text t).Fits := by
  simp [Fits]

/-- An element fits if its tag is not void and takes its attributes, and all it holds fits. -/
theorem fits_element {tag : HtmlTag} {attributes : List (HtmlAttribute × Text)}
    {children : List Html} :
    (element tag attributes children).Fits ↔
      tag.isVoid = false ∧ tag.Takes (attributeTexts attributes) ∧ FitsAll children := by
  simp [Fits]

/-- An element without attributes fits if its tag takes none and all it holds fits. -/
@[simp] theorem fits_simple {tag : HtmlTag} {children : List Html} :
    (simple tag children).Fits ↔
      tag.isVoid = false ∧ tag.Takes [] ∧ FitsAll children := by
  simp [simple, fits_element, attributeTexts]

/-- An element that holds a text fits if its tag takes no attributes. -/
@[simp] theorem fits_leaf {tag : HtmlTag} {t : Text} :
    (leaf tag t).Fits ↔ tag.isVoid = false ∧ tag.Takes [] := by
  simp [leaf, fits_simple]

/-- A block fits if its tag takes no attributes and all it holds fits. -/
@[simp] theorem fits_block {tag : HtmlTag} {children : List Html} :
    (block tag children).Fits ↔
      tag.isVoid = false ∧ tag.Takes [] ∧ FitsAll children := by
  have hlines : FitsAll (children.flatMap fun child => [child, text "\n"]) ↔ FitsAll children := by
    induction children with
    | nil => rfl
    | cons child children ih =>
        rw [List.flatMap_cons, fitsAll_append, ih, fitsAll_cons, fitsAll_cons, fitsAll_cons]
        simp only [fits_text, fitsAll_nil, and_true]
  rw [block, fits_simple, fitsAll_cons, hlines, and_iff_right (fits_text _)]

/-- An opening token is written as the tag that it was read from. -/
theorem write_opening (tag : HtmlTag) (attributes : List (HtmlAttribute × Text)) :
    (opening tag.name (attributeTexts attributes)).write = openTag tag attributes := by
  have hattributes : (attributeTexts attributes).flatMap
        (fun pair => [' '] ++ pair.1 ++ ['=', '"'] ++ pair.2 ++ ['"']) =
      attributes.flatMap renderAttribute := by
    rw [attributeTexts, List.flatMap_map]
    rfl
  rw [write, hattributes, openTag]

mutual

/-- A piece is written token by token. -/
theorem flatMap_write_tokens : (piece : Html) → piece.tokens.flatMap write = piece.render
  | text t => by
      rw [tokens, render, List.flatMap_map]
      exact List.flatMap_singleton' _
  | element tag attributes children => by
      rw [tokens, render, List.flatMap_cons, List.flatMap_append, List.flatMap_singleton,
        write_opening, flatMap_write_tokensOfAll children, List.append_assoc]
      rfl
  | void tag attributes => by
      rw [tokens, render, List.flatMap_singleton, write_opening]

/-- Writing the tokens of pieces renders the pieces. -/
theorem flatMap_write_tokensOfAll :
    (pieces : List Html) → (tokensOfAll pieces).flatMap write = renderAll pieces
  | [] => rfl
  | piece :: pieces => by
      rw [tokensOfAll, renderAll, List.flatMap_append, flatMap_write_tokens piece,
        flatMap_write_tokensOfAll pieces]

end

mutual

/-- A piece that fits closes all elements that it opens. -/
theorem openAfter?_tokens (opened : List Text) (rest : List HtmlToken) :
    (piece : Html) → piece.Fits →
      openAfter? opened (piece.tokens ++ rest) = openAfter? opened rest
  | text t, _ => by
      rw [tokens, openAfter?_map_char]
  | element tag attributes children, h => by
      obtain ⟨hvoid, -, hchildren⟩ := fits_element.1 h
      rw [tokens, List.cons_append, openAfter?_opening, hvoid, List.append_assoc,
        openAfter?_tokensOfAll _ _ children hchildren]
      exact openAfter?_closing tag.name opened rest
  | void tag attributes, h => by
      rw [Fits] at h
      rw [tokens, List.singleton_append, openAfter?_opening, h.1, if_pos rfl]

/-- Pieces that fit leave the same elements open as before. -/
theorem openAfter?_tokensOfAll (opened : List Text) (rest : List HtmlToken) :
    (pieces : List Html) → FitsAll pieces →
      openAfter? opened (tokensOfAll pieces ++ rest) = openAfter? opened rest
  | [], _ => rfl
  | piece :: pieces, h => by
      rw [fitsAll_cons] at h
      rw [tokensOfAll, List.append_assoc, openAfter?_tokens _ _ piece h.1,
        openAfter?_tokensOfAll _ _ pieces h.2]

end

/-- Escaped text is no tag. -/
theorem fromTemplate_map_char (t : Text) :
    ∀ token ∈ (Markup.escape t).map char, token.FromTemplate := by
  rw [List.forall_mem_map]
  intro c hc
  constructor
  · rintro rfl
    exact Markup.notMem_escape (.inl rfl) t hc
  · rintro rfl
    exact Markup.notMem_escape (.inr (.inl rfl)) t hc

mutual

/-- The tokens of a piece that fits are those of the template. -/
theorem fromTemplate_tokens :
    (piece : Html) → piece.Fits → ∀ token ∈ piece.tokens, token.FromTemplate
  | text t, _ => by
      rw [tokens]
      exact fromTemplate_map_char t
  | element tag attributes children, h => by
      obtain ⟨hvoid, htakes, hchildren⟩ := fits_element.1 h
      rw [tokens, List.forall_mem_cons, List.forall_mem_append, List.forall_mem_singleton]
      exact ⟨⟨tag, rfl, htakes⟩, fromTemplate_tokensOfAll children hchildren, tag, rfl, hvoid⟩
  | void tag attributes, h => by
      rw [Fits] at h
      rw [tokens, List.forall_mem_singleton]
      exact ⟨tag, rfl, h.2⟩

/-- The tokens of pieces that fit all come from the template. -/
theorem fromTemplate_tokensOfAll :
    (pieces : List Html) → FitsAll pieces → ∀ token ∈ tokensOfAll pieces, token.FromTemplate
  | [], _ => fun _ htoken => absurd htoken List.not_mem_nil
  | piece :: pieces, h => by
      rw [fitsAll_cons] at h
      rw [tokensOfAll, List.forall_mem_append]
      exact ⟨fromTemplate_tokens piece h.1, fromTemplate_tokensOfAll pieces h.2⟩

end

mutual

/-- Between the tags stands the text of a piece, escaped. -/
theorem characters_tokens :
    (piece : Html) → characters piece.tokens = Markup.escape piece.content
  | text t => by
      rw [tokens, content, characters_map_char]
  | element tag attributes children => by
      rw [tokens, content, characters, List.filterMap_cons_none rfl, ← characters,
        characters_append, characters_tokensOfAll children]
      exact List.append_nil _
  | void tag attributes => by
      rw [tokens, content]
      rfl

/-- The characters of pieces are their escaped content. -/
theorem characters_tokensOfAll :
    (pieces : List Html) → characters (tokensOfAll pieces) = Markup.escape (contentOfAll pieces)
  | [] => rfl
  | piece :: pieces => by
      rw [tokensOfAll, contentOfAll, characters_append, characters_tokens piece,
        characters_tokensOfAll pieces, Markup.escape, Markup.escape, Markup.escape,
        List.flatMap_append]

end

end Html

/-! ## Pages -/

namespace Page

open HtmlToken Html

/-- The row of a fact fits. -/
theorem fits_factRow (fact : Text × Text) : (factRow fact).Fits := by
  simp [factRow]

/-- The facts of an element fit, whichever of them are shown. -/
theorem fitsAll_details (options : ExportOptions) (element : Element) :
    FitsAll (details options element) := by
  have hfacts : FitsAll ((facts options element).map factRow) := fitsAll_map fits_factRow
  rw [details, fitsAll_append, fitsAll_append]
  refine ⟨⟨?_, ?_⟩, ?_⟩
  · simp [hfacts]
  · split_ifs <;> simp
  · split_ifs <;> simp

/-- The introduction of a page fits. -/
theorem fitsAll_introduction (options : ExportOptions) (label : Text) (element : Option Element) :
    FitsAll (introduction options label element) := by
  rcases element with _ | element
  · simp [introduction]
  · simp [introduction, fitsAll_details]

/-- The item of a parameter fits. -/
theorem fits_paramItem (param : Text × Text) : (paramItem param).Fits := by
  simp [paramItem]

/-- The documentation of an element fits. -/
theorem fitsAll_describe (doc : DocComment) : FitsAll (describe doc) := by
  have hparams : FitsAll (doc.params.map paramItem) := fitsAll_map fits_paramItem
  rw [describe, fitsAll_append, fitsAll_append]
  refine ⟨⟨by simp, ?_⟩, ?_⟩
  · split_ifs <;> simp [hparams]
  · split_ifs <;> simp [Fits, attributeTexts]

/-- The tag of a declaration takes the class of the declaration. -/
theorem takes_styleClass (element : Element) :
    HtmlTag.code.Takes (attributeTexts (styleClass element)) := by
  unfold styleClass
  split
  · exact .inl rfl
  · exact .inr (.inl rfl)
  · exact .inr (.inr rfl)

/-- The tag of a link takes the link. -/
theorem takes_href (link : Text) : HtmlTag.a.Takes (attributeTexts [(.href, link)]) := by
  have hnot (c : Char) (hc : c = '<' ∨ c = '>' ∨ c = '"' ∨ c = '\'') : c ∉ Markup.escape link :=
    Markup.notMem_escape hc link
  exact ⟨Markup.escape link, rfl, hnot _ (.inl rfl), hnot _ (.inr (.inl rfl)),
    hnot _ (.inr (.inr (.inl rfl))), hnot _ (.inr (.inr (.inr rfl)))⟩

/-- A declaration fits, linked or not. -/
theorem fits_linked (element : Element) (link : Option Text) : (linked element link).Fits := by
  rcases link with _ | link
  · exact fits_text _
  · rw [linked, fits_element]
    exact ⟨rfl, takes_href link, by simp⟩

/-- The cells of a member fit. -/
theorem fitsAll_memberCells (element : Element) (link : Option Text) :
    FitsAll (memberCells element link) := by
  have hcode : (Html.element .code (styleClass element) [linked element link]).Fits :=
    fits_element.2 ⟨rfl, takes_styleClass element, by simp [fits_linked]⟩
  simp [memberCells, hcode, fitsAll_describe]

/-- The table of a group fits. -/
theorem fitsAll_memberTable (children : List Branch) (links : List (NodeId × Text))
    (group : Kind × Text) : FitsAll (memberTable children links group) := by
  have hrows : FitsAll ((membersOf group.1 children).map fun member =>
      Html.simple .tr (memberCells member.2 (links.lookup member.1))) := by
    refine fitsAll_map fun member => ?_
    simp [fitsAll_memberCells]
  rw [memberTable_eq]
  split_ifs
  · exact fitsAll_nil
  · simp [hrows, headCells]

/-- A whole page fits. -/
theorem fits_html (options : ExportOptions) (branch : Branch) (links : List (NodeId × Text)) :
    (html options branch links).Fits := by
  have hmeta : (Html.void .meta_ [(.charset, "utf-8")]).Fits := by
    rw [Fits, HtmlTag.Takes]
    decide
  have hhead : FitsAll [.void .meta_ [(.charset, "utf-8")], .leaf .title branch.label,
      .leaf .style styleSheet] :=
    ⟨hmeta, fits_leaf.2 ⟨rfl, rfl⟩, fits_leaf.2 ⟨rfl, rfl⟩, fitsAll_nil⟩
  have htables : FitsAll (groups.flatMap (memberTable branch.children links)) := by
    rw [fitsAll_iff]
    intro piece hpiece
    obtain ⟨group, -, hpiece⟩ := List.mem_flatMap.1 hpiece
    exact fitsAll_iff.1 (fitsAll_memberTable branch.children links group) piece hpiece
  rw [html, fits_block, fitsAll_cons, fitsAll_cons, fits_block, fits_block, fitsAll_append]
  exact ⟨rfl, rfl, ⟨rfl, rfl, hhead⟩, ⟨rfl, rfl, fitsAll_introduction _ _ _, htables⟩, fitsAll_nil⟩

/-- A link on a page is one of those that the page was given, escaped. -/
theorem exists_of_mem_hrefs {options : ExportOptions} {branch : Branch}
    {links : List (NodeId × Text)} {value : Text}
    (h : value ∈ hrefs (render options branch links)) :
    ∃ entry ∈ links, value = Markup.escape entry.2 := by
  rw [hrefs_render, tables_render, List.flatMap_map, List.mem_flatMap] at h
  obtain ⟨group, -, h⟩ := h
  obtain ⟨row, hrow, hlink⟩ := List.mem_filterMap.1 h
  obtain ⟨member, -, rfl⟩ := List.mem_map.1 hrow
  obtain ⟨link, hlookup, rfl⟩ := Option.map_eq_some_iff.1 hlink
  obtain ⟨before, after, rfl, -⟩ := List.lookup_eq_some_iff.1 hlookup
  exact ⟨(member.1, link), by simp, rfl⟩

/-- Unescaping the characters of a piece gives back its content. -/
theorem unescape?_characters (piece : Html) :
    Markup.unescape? (characters piece.tokens) = some piece.content := by
  rw [characters_tokens, Markup.unescape?_escape]

/-- **Pages cannot be broken.**  Behind its document type a page is one element whose tags are those
of the template, each closed when it is the innermost open one.  All else are characters that are no
angle brackets: nothing but the text of the page, escaped, and each link is one that the page was
given, escaped and between its quotes. -/
theorem render_wellNested (options : ExportOptions) (branch : Branch)
    (links : List (NodeId × Text)) :
    ∃ inner : List HtmlToken,
      let root := opening HtmlTag.html.name [] :: (inner ++ [closing HtmlTag.html.name])
      read (render options branch links) =
          opening "!DOCTYPE" [] :: char '\n' :: (root ++ [char '\n']) ∧
        render options branch links = "<!DOCTYPE html>\n" ++ root.flatMap write ++ "\n" ∧
        openAfter? [] inner = some [] ∧
        (∀ token ∈ inner, token.FromTemplate) ∧
        (∀ value ∈ inner.filterMap href?,
          ∃ entry ∈ links, Markup.unescape? value = some entry.2) ∧
        Markup.unescape? (characters inner) = some (html options branch links).content := by
  obtain ⟨pieces, hpieces⟩ : ∃ pieces, html options branch links = .simple .html pieces := by
    rw [html, block]
    exact ⟨_, rfl⟩
  have hfits : FitsAll pieces := (fits_simple.1 (hpieces ▸ fits_html options branch links)).2.2
  have hread : read (render options branch links) =
      opening "!DOCTYPE" [] :: char '\n' ::
        ((html options branch links).tokens ++ [char '\n']) := by
    have hend : read ("\n" : Text) = [char '\n'] := by decide
    have hrender : render options branch links =
        "<!DOCTYPE html>\n" ++ ((html options branch links).render ++ "\n") :=
      List.append_assoc _ _ _
    rw [hrender, read_doctype, read_render_append, hend]
  have hrefs_eq : hrefs (render options branch links) = (tokensOfAll pieces).filterMap href? := by
    rw [hrefs, hread, hpieces, tokens_simple, List.filterMap_cons_none rfl,
      List.filterMap_cons_none rfl, List.cons_append, List.filterMap_cons_none rfl,
      List.filterMap_append, List.filterMap_append]
    simp [href?]
  refine ⟨tokensOfAll pieces, ?_, ?_, ?_, fromTemplate_tokensOfAll pieces hfits, ?_, ?_⟩
  · rw [hread, hpieces, tokens_simple]
  · rw [← tokens_simple, flatMap_write_tokens, ← hpieces]
    rfl
  · rw [← List.append_nil (tokensOfAll pieces), openAfter?_tokensOfAll _ _ _ hfits]
    rfl
  · intro value hvalue
    obtain ⟨entry, hentry, rfl⟩ := exists_of_mem_hrefs (hrefs_eq ▸ hvalue)
    exact ⟨entry, hentry, Markup.unescape?_escape entry.2⟩
  · have hchars : characters (html options branch links).tokens =
        characters (tokensOfAll pieces) := by
      rw [hpieces, tokens_simple, characters, List.filterMap_cons_none rfl, ← characters,
        characters_append]
      exact List.append_nil _
    rw [← hchars, unescape?_characters]

end Page

end DeclAtlas
