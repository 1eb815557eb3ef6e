import DeclAtlas.Browser.Theme
import DeclAtlas.Screen.Picture

/-!
# The status bar

The line below the panes.  Its left half says what goes on, its right half which keys there are.
-/

namespace DeclAtlas

open Screen

/-- What goes on in the browser. -/
inductive Activity where
  | browsing
  /-- The defined symbols are being edited; the text typed so far. -/
  | editing (input : Text)
  /-- A site is being written; its progress in percent. -/
  | exporting (percent : Nat)
  deriving DecidableEq, Repr

/-- What the status bar shows. -/
structure StatusBar where
  /-- What goes on. -/
  activity : Activity
  /-- The message for the user. -/
  message : Text
  /-- The number of elements of the tree. -/
  elements : Nat

namespace StatusBar

/-- The style of plain text on the bar. -/
def plain : Style :=
  { foreground := some Theme.text, background := some Theme.highlight }

/-- The style of what divides texts on the bar. -/
def divider : Style :=
  { foreground := some Theme.faint, background := some Theme.highlight }

/-- The style of the name of a key. -/
def keyName : Style :=
  { foreground := some .black, background := some Theme.faint }

/-- The badge at the left end: its text and its colour. -/
def badge (bar : StatusBar) : Text × Color :=
  match bar.activity with
  | .browsing => (" " ++ Text.ofNat bar.elements ++ " elements ", Theme.primary)
  | .editing _ => (" DEFINES ", Theme.secondary)
  | .exporting percent =>
    (" EXPORT " ++ Text.padStart 3 (Text.ofNat percent) ++ "% ", Theme.success)

/-- The text beside the badge: the message, or what is being typed with a cursor behind it. -/
def note (bar : StatusBar) : Text :=
  match bar.activity with
  | .editing input => " " ++ input ++ "▏"
  | _ => " " ++ bar.message ++ " "

/-- The left half of the bar. -/
def left (bar : StatusBar) : List Glyph :=
  let (t, color) := bar.badge
  Glyph.ofText { foreground := some .black, background := some color, bold := true } t ++
    Glyph.ofText divider " | " ++ Glyph.ofText plain bar.note

/-- The keys that can be used, with what they do. -/
def keys (bar : StatusBar) : List (Text × Text) :=
  match bar.activity with
  | .editing _ => [(" ↵ ", " reload "), (" esc ", " cancel ")]
  | _ => [(" ↑/↓ ", " select "), (" ←/→ ", " fold "), (" d ", " defines "),
      (" g ", " export "), (" q ", " quit ")]

/-- The keys as they are drawn. -/
def keyGlyphs (bar : StatusBar) : List (List Glyph) :=
  bar.keys.map fun (name, action) => Glyph.ofText keyName name ++ Glyph.ofText plain action

/-- The right half of the bar. -/
def right (bar : StatusBar) : List Glyph :=
  List.intercalate (Glyph.ofText divider "│" ++ Glyph.ofText plain " ") bar.keyGlyphs

/-- Draws the bar.  It fills its area, though it has text on the first row only: the left half from
its left end on, the right half up to its right end. -/
def draw (bar : StatusBar) (width height : Nat) : Picture :=
  let leftWidth := share width 50
  let left := Glyph.cut leftWidth bar.left
  let right := Glyph.cut (width - leftWidth) bar.right
  let rows := List.replicate height (Strip.blank { background := some Theme.highlight } width)
  Picture.editRows [fun row =>
    Strip.write right (width - Glyph.totalWidth right) (Strip.write left 0 row)] rows

end StatusBar

end DeclAtlas
