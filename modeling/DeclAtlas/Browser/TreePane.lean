import DeclAtlas.Browser.Row
import DeclAtlas.Browser.Theme
import DeclAtlas.Screen.Picture

/-!
# The pane of the tree

The rows of a tree, indented, with a mark for those that can be expanded.  The pane scrolls no
further than needed to show the selected row.
-/

namespace DeclAtlas

open Screen

/-- What the pane of the tree shows. -/
structure TreePane where
  /-- The tree that the rows belong to. -/
  tree : Tree
  /-- All rows. -/
  rows : List Row
  /-- The number of the selected row. -/
  selected : Nat
  /-- Whether the pane takes the keys. -/
  isFocused : Bool

/-- The number of lines within the frame of a pane, for scrolling: at least one. -/
def visibleLines (height : Nat) : Nat :=
  max (height - 2) 1

namespace TreePane

/-- The style of the label of a node. -/
def labelStyle (tree : Tree) (id : NodeId) : Style :=
  match tree.element? id with
  | none => { foreground := some Theme.primary, bold := true }
  | some element =>
    let style := Style.colored (Theme.ofKind element.kind)
    match element.emphasis with
    | .italic => { style with italic := true }
    | .underline => { style with underlined := true }
    | .regular => style

/-- The mark of a row. -/
def mark (row : Row) : Text :=
  if row.hasChildren then (if row.isExpanded then "▾ ".toList else "▸ ".toList) else "  ".toList

/-- The texts of a row with their styles. -/
def texts (pane : TreePane) (isSelected : Bool) (row : Row) : List (Style × Text) :=
  let style := labelStyle pane.tree row.node
  let style := if isSelected then
      { style with background := some Theme.highlight, bold := style.bold || pane.isFocused }
    else style
  [({}, List.replicate (2 * row.depth) ' '), (.colored Theme.faint, mark row),
    (style, pane.tree.label row.node)]

/-- The first row shown, given that of the last time and the height of the pane. -/
def scrolled (pane : TreePane) (scroll height : Nat) : Nat :=
  let lines := visibleLines height
  if pane.rows.isEmpty then scroll
  else if pane.selected < scroll then pane.selected
  else if pane.selected ≥ scroll + lines then pane.selected + 1 - lines
  else scroll

/-- The rows that are shown, with their numbers. -/
def shownRows (pane : TreePane) (scroll height : Nat) : List (Row × Nat) :=
  (pane.rows.zipIdx.drop (pane.scrolled scroll height)).take (visibleLines height)

/-- Draws the pane. -/
def draw (pane : TreePane) (scroll width height : Nat) : Picture :=
  let style := Theme.frame pane.isFocused
  let title := Text.lines (" " ++ pane.tree.label Tree.root ++ " ")
  if pane.rows.isEmpty then
    let notice := Glyph.cut (width - 2) (Glyph.ofText {} "(no declarations)")
    Picture.framed (.colored Theme.faint) style title width height [Strip.write notice 1]
  else
    Picture.framed {} style title width height
      ((pane.shownRows scroll height).map fun (row, number) =>
        Strip.inscribeAll (width - 1) (pane.texts (number == pane.selected) row) 1)

end TreePane

end DeclAtlas
