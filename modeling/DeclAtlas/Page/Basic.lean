import DeclAtlas.Doc.Comment
import DeclAtlas.Page.Html
import DeclAtlas.Site.Options
import DeclAtlas.Tree.Branch

/-!
# Pages

The page of a container shows what its header says, its documentation and one table for each kind
of member.  A member that has a page of its own is linked to it.
-/

namespace DeclAtlas

namespace Page

/-! ## Names and signatures -/

/-- The control characters. -/
def isControl (c : Char) : Bool :=
  c.toNat < 0x20 || (0x7F ≤ c.toNat && c.toNat < 0xA0)

/-- A character that may be part of a file name; others become an underscore. -/
def stemChar (c : Char) : Char :=
  if "<>:\"/\\|?*".toList.contains c || isControl c then '_' else c

/-- The name of a page's file without extension, from the label of its node. -/
def stem (label : Text) : Text :=
  label.map stemChar

/-- The declaration of an element on one line. -/
def signature (element : Element) : Text :=
  let visibility :=
    if element.visibility = .unspecified then [] else [element.visibility.label]
  let type :=
    match element.type with
    | .named name => [name]
    | _ => []
  let bases := if element.bases.isEmpty then [] else [": " ++ element.bases]
  let value := if element.defaultValue.isEmpty then [] else ["= " ++ element.defaultValue]
  Text.join " "
    (visibility ++ element.modifiers ++ type ++ [element.displayName] ++ bases ++ value)

/-! ## Details -/

/-- The style sheet of all pages. -/
def styleSheet : Text :=
  "body\x7bfont-family:sans-serif;margin:2em;color:#222\x7d" ++
  "table\x7bborder-collapse:collapse;margin-bottom:1.5em\x7d" ++
  "td,th\x7bborder:1px solid #ccc;padding:4px 8px;text-align:left;vertical-align:top\x7d" ++
  "code\x7bfont-family:monospace\x7d.abstract\x7bfont-style:italic\x7d" ++
  ".static\x7btext-decoration:underline\x7d"

/-- The facts about an element that its page lists, with their names. -/
def facts (options : ExportOptions) (element : Element) : List (Text × Text) :=
  let unlessEmpty (name value : Text) := if value.isEmpty then [] else [(name, value)]
  (if options.showAttributes then unlessEmpty "Attributes" element.attributes else []) ++
    [("Visibility".toList, element.visibility.label)] ++
    (if element.modifiers.isEmpty then [] else [("Modifiers".toList, element.modifiersText)]) ++
    (if element.type.isAbsent then [] else [("Type".toList, element.type.text)]) ++
    unlessEmpty "Default value" element.defaultValue ++
    unlessEmpty "Extends" element.bases

/-- One row of the table of facts. -/
def factRow (fact : Text × Text) : Html :=
  .simple .tr [.leaf .th fact.1, .simple .td [.leaf .code fact.2]]

/-- What a page says about its own element. -/
def details (options : ExportOptions) (element : Element) : List Html :=
  let doc := DocComment.ofText element.summary
  [.block .table ((facts options element).map factRow)] ++
    (if doc.summary.isEmpty then [] else [.leaf .p doc.summary]) ++
    (if doc.remarks.isEmpty then [] else [.simple .p [.leaf .em doc.remarks]])

/-! ## Members -/

/-- The kinds of members in the order of their tables, with the headings of these. -/
def groups : List (Kind × Text) :=
  [(.nameSpace, "Namespaces"), (.classType, "Classes"), (.interfaceType, "Interfaces"),
    (.structType, "Structs"), (.enumType, "Enums"), (.function, "Functions"),
    (.property, "Properties"), (.field, "Variables")]

/-- The description of a parameter in a list. -/
def paramItem (param : Text × Text) : Html :=
  .simple .li [.leaf .code param.1, .text ": ", .text param.2]

/-- What a table says about a member. -/
def describe (doc : DocComment) : List Html :=
  [.text doc.summary] ++
    (if doc.params.isEmpty then [] else [.simple .ul (doc.params.map paramItem)]) ++
    (if doc.returns.isEmpty then [] else [.void .br [], .text "Returns: ", .text doc.returns])

/-- The style class of an element's signature. -/
def styleClass (element : Element) : List (HtmlAttribute × Text) :=
  match element.emphasis with
  | .regular => []
  | .italic => [(.className, "abstract")]
  | .underline => [(.className, "static")]

/-- The row of a member: its signature, linked to its page if there is one, and its
documentation. -/
def memberRow (element : Element) (link : Option Text) : Html :=
  let declaration : Html :=
    match link with
    | none => .text (signature element)
    | some link => .element .a [(.href, link)] [.text (signature element)]
  .simple .tr
    [.simple .td [.element .code (styleClass element) [declaration]],
      .simple .td (describe (DocComment.ofText element.summary))]

/-- The documented members of a kind, with their node numbers. -/
def membersOf (kind : Kind) (children : List Branch) : List (NodeId × Element) :=
  children.filterMap fun child =>
    match child.element with
    | some element =>
      if element.exportable ∧ element.kind = kind then some (child.id, element) else none
    | none => none

/-- The heading and table for the members of a kind, if there are any. -/
def memberTable (children : List Branch) (links : List (NodeId × Text)) (group : Kind × Text) :
    List Html :=
  let members := membersOf group.1 children
  if members.isEmpty then []
  else
    let head := Html.simple .tr [.leaf .th "Declaration", .leaf .th "Description"]
    let rows := members.map fun (id, element) => memberRow element (links.lookup id)
    [.leaf .h2 group.2, .block .table (head :: rows)]

/-! ## The whole page -/

/-- The heading and details of a page. -/
def introduction (options : ExportOptions) (label : Text) : Option Element → List Html
  | none => [.leaf .h1 label]
  | some element =>
    .leaf .h1 (element.kind.label ++ " " ++ label) :: details options element

/-- The page of a node; `links` gives the links to the pages of its members. -/
def html (options : ExportOptions) (branch : Branch) (links : List (NodeId × Text)) : Html :=
  .block .html
    [.block .head
        [.void .meta_ [(.charset, "utf-8")], .leaf .title branch.label, .leaf .style styleSheet],
      .block .body
        (introduction options branch.label branch.element ++
          groups.flatMap (memberTable branch.children links))]

/-- The page of a node as it is written. -/
def render (options : ExportOptions) (branch : Branch) (links : List (NodeId × Text)) : Text :=
  "<!DOCTYPE html>\n" ++ (html options branch links).render ++ "\n"

/-- A page that redirects to another one. -/
def redirect (target : Text) : Text :=
  "<?php header('Location: " ++ Text.replaceChar '\'' "%27" target ++ "'); ?>\n"

end Page

end DeclAtlas
