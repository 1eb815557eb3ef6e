import DeclAtlas.Browser.TreePane
import DeclAtlas.Doc.Comment
import DeclAtlas.Screen.Wrap

/-!
# The pane of facts

What is known of the selected element, or of the project if nothing is selected.
-/

namespace DeclAtlas

open Screen

/-- What the pane of facts shows. -/
structure InfoPane where
  /-- The tree that the node belongs to. -/
  tree : Tree
  /-- The selected node. -/
  node : Option NodeId
  /-- What is said of the project if no element is selected. -/
  projectLines : List Text
  /-- Whether the pane takes the keys. -/
  isFocused : Bool

namespace InfoPane

/-- A fact of an element: its name and its value, or a dash. -/
def fact (name value : Text) : List Glyph :=
  Glyph.ofText { foreground := some Theme.primary, bold := true } (Text.padEnd 14 name) ++
    (if value.isEmpty then Glyph.ofText (.colored Theme.faint) "-"
    else Glyph.ofText (.colored Theme.text) value)

/-- The lines for an element. -/
def elementLines (path : List Text) (element : Element) : List (List Glyph) :=
  let summary := (DocComment.ofText element.summary).summary
  [Glyph.ofText { foreground := some (Theme.ofKind element.kind), bold := true }
      (Text.join ".".toList path),
    [],
    fact "Kind" element.kind.label,
    fact "Attributes" element.attributes,
    fact "Visibility" element.visibility.label,
    fact "Modifiers" element.modifiersText,
    fact "Type" element.type.text,
    fact "Default value" element.defaultValue,
    fact "Extends" element.bases,
    [],
    if summary.isEmpty then Glyph.ofText (.colored Theme.faint) "(no summary)"
    else Glyph.ofText (.colored Theme.text) summary]

/-- The lines of the pane before they are wrapped. -/
def lines (pane : InfoPane) : List (List Glyph) :=
  let found := pane.node.bind fun id => (pane.tree.element? id).map fun element => (id, element)
  match found with
  | some (id, element) => elementLines (pane.tree.path id) element
  | none => pane.projectLines.map (Glyph.ofText (.colored Theme.text))

/-- The first line shown, given the wanted one and the height of the pane: as many lines must be
left as the pane can show.  Lines are counted before they are wrapped. -/
def scrolled (pane : InfoPane) (scroll height : Nat) : Nat :=
  min scroll (pane.lines.length - visibleLines height)

/-- Draws the pane.  A line that holds wide glyphs can be wider than the area within the frame; it
then runs onto the frame.  There is no picture if one runs beyond the pane. -/
def draw? (pane : InfoPane) (scroll width height : Nat) : Option Picture :=
  let lines := wrapped pane.lines (pane.scrolled scroll height) (width - 2) (height - 2)
  if lines.all (Glyph.startBefore width 1) then
    some (Picture.framed {} (Theme.frame pane.isFocused) [" Info "] width height
      (lines.map fun line => Strip.write line 1))
  else none

end InfoPane

end DeclAtlas
