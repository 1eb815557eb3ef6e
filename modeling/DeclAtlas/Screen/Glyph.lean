import DeclAtlas.Screen.Style
import DeclAtlas.Text.Cluster
import DeclAtlas.Text.Columns

/-!
# Glyphs

A text is drawn glyph by glyph.  A glyph is a cluster of the text and takes the columns of the
cluster.  A line feed that is a cluster of its own is not drawn at all.
-/

namespace DeclAtlas.Screen

/-- A unit of drawn text with its style. -/
structure Glyph where
  /-- The characters of the glyph. -/
  text : Text
  /-- The number of columns that it takes. -/
  width : Nat
  /-- How it looks. -/
  style : Style := {}
  deriving DecidableEq, Repr

namespace Glyph

/-- The glyphs of a text in one style. -/
def ofText (style : Style) (t : Text) : List Glyph :=
  ((Text.clusters t).filter (· != ['\n'])).map fun cluster =>
    { text := cluster, width := Text.columns cluster, style }

/-- The number of columns that glyphs take together. -/
def totalWidth (glyphs : List Glyph) : Nat :=
  glyphs.foldr (fun glyph total => glyph.width + total) 0

/-- Whether a line may be broken at a glyph: it is blank and not the no-break space, or it is the
space of no width. -/
def isBreak (glyph : Glyph) : Bool :=
  glyph.text == ['\u200b'] || glyph.text.all Text.isBlank && glyph.text != ['\u00a0']

/-- Whether glyphs that stand one behind the other from a column on all start in front of another
column.  Those that take no column are not drawn and do not count. -/
def startBefore (stop : Nat) : (column : Nat) → List Glyph → Bool
  | _, [] => true
  | column, glyph :: glyphs =>
    (glyph.width = 0 || column < stop) && startBefore stop (column + glyph.width) glyphs

/-- Glyphs up to the first that does not fit into the room that is left of a width. -/
def fitInto : (room : Nat) → List Glyph → List Glyph
  | _, [] => []
  | room, glyph :: glyphs =>
    if glyph.width > room then [] else glyph :: fitInto (room - glyph.width) glyphs

/-- The glyphs of one row of a width.  Those that are wider than the row are left out, and the rest
is cut at the first that does not fit. -/
def cut (width : Nat) (glyphs : List Glyph) : List Glyph :=
  fitInto width (glyphs.filter fun glyph => glyph.width ≤ width)

@[simp]
theorem totalWidth_cons (glyph : Glyph) (glyphs : List Glyph) :
    totalWidth (glyph :: glyphs) = glyph.width + totalWidth glyphs :=
  rfl

/-- Glyphs that are fitted into a room are no wider than the room. -/
theorem totalWidth_fitInto_le (room : Nat) (glyphs : List Glyph) :
    totalWidth (fitInto room glyphs) ≤ room := by
  induction glyphs generalizing room with
  | nil => exact Nat.zero_le room
  | cons glyph glyphs ih =>
    unfold fitInto
    split
    · exact Nat.zero_le room
    · have h := ih (room - glyph.width)
      rw [totalWidth_cons]
      omega

/-- A row that has been cut is not wider than its width. -/
theorem totalWidth_cut_le (width : Nat) (glyphs : List Glyph) :
    totalWidth (cut width glyphs) ≤ width :=
  totalWidth_fitInto_le width _

end Glyph

end DeclAtlas.Screen
