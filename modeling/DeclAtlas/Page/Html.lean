import DeclAtlas.Markup.Entity

/-!
# HTML

Pages are built as trees of elements and text and written in one place, where text and attribute
values are escaped.  The elements are an enumeration, so a page holds no others.
-/

namespace DeclAtlas

/-- The elements of a page. -/
inductive HtmlTag where
  | html
  | head
  | meta_
  | title
  | style
  | body
  | h1
  | h2
  | table
  | tr
  | th
  | td
  | code
  | a
  | p
  | em
  | ul
  | li
  | br
  deriving DecidableEq, Repr

/-- The name of an element. -/
def HtmlTag.name : HtmlTag → Text
  | .html => "html"
  | .head => "head"
  | .meta_ => "meta"
  | .title => "title"
  | .style => "style"
  | .body => "body"
  | .h1 => "h1"
  | .h2 => "h2"
  | .table => "table"
  | .tr => "tr"
  | .th => "th"
  | .td => "td"
  | .code => "code"
  | .a => "a"
  | .p => "p"
  | .em => "em"
  | .ul => "ul"
  | .li => "li"
  | .br => "br"

/-- The attributes of elements. -/
inductive HtmlAttribute where
  | charset
  | className
  | href
  deriving DecidableEq, Repr

/-- The name of an attribute. -/
def HtmlAttribute.name : HtmlAttribute → Text
  | .charset => "charset"
  | .className => "class"
  | .href => "href"

/-- A piece of a page. -/
inductive Html where
  | text (t : Text)
  | element (tag : HtmlTag) (attributes : List (HtmlAttribute × Text)) (children : List Html)
  /-- An element that has no content and no closing tag. -/
  | void (tag : HtmlTag) (attributes : List (HtmlAttribute × Text))
  deriving Repr

namespace Html

/-- An attribute with its value. -/
def renderAttribute (pair : HtmlAttribute × Text) : Text :=
  " " ++ pair.1.name ++ "=\"" ++ Markup.escape pair.2 ++ "\""

/-- An opening tag. -/
def openTag (tag : HtmlTag) (attributes : List (HtmlAttribute × Text)) : Text :=
  "<" ++ tag.name ++ attributes.flatMap renderAttribute ++ ">"

/-- A closing tag. -/
def closeTag (tag : HtmlTag) : Text :=
  "</" ++ tag.name ++ ">"

mutual

/-- A piece of a page as it is written. -/
def render : Html → Text
  | text t => Markup.escape t
  | element tag attributes children => openTag tag attributes ++ renderAll children ++ closeTag tag
  | void tag attributes => openTag tag attributes

/-- Pieces of a page, one after the other. -/
def renderAll : List Html → Text
  | [] => []
  | piece :: pieces => piece.render ++ renderAll pieces

end

/-- An element without attributes. -/
def simple (tag : HtmlTag) (children : List Html) : Html :=
  element tag [] children

/-- An element that holds only text. -/
def leaf (tag : HtmlTag) (t : Text) : Html :=
  simple tag [text t]

/-- An element whose children stand on lines of their own. -/
def block (tag : HtmlTag) (children : List Html) : Html :=
  simple tag (text "\n" :: children.flatMap fun child => [child, text "\n"])

end Html

end DeclAtlas
