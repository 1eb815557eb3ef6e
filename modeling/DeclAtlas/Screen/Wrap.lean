import DeclAtlas.Screen.Glyph

/-!
# Wrapping

A drawn text that is wider than its area is broken into lines between words.  Blanks are kept,
except for those that fall behind the end of a full line.  A word that is wider than the area is
broken where the line ends.  A wide glyph that starts within the width may end beyond it, and a word
that has got too wide with it moves to a line of its own as it is.

The wrapping reads the text glyph by glyph.  It keeps the line that is being filled, the blanks
behind it and the word behind those, which come to the line as soon as the word has ended.
-/

namespace DeclAtlas.Screen

open Glyph (totalWidth)

/-- A wrapping that is going on. -/
structure Wrapping where
  /-- The lines that are full. -/
  lines : List (List Glyph) := []
  /-- The line that is being filled. -/
  line : List Glyph := []
  /-- The blanks behind it. -/
  blanks : List Glyph := []
  /-- The word behind the blanks. -/
  word : List Glyph := []
  /-- Whether the last glyph belongs to a word. -/
  inWord : Bool := false

namespace Wrapping

/-- Puts the pending blanks and word on the line. -/
def settle (w : Wrapping) : Wrapping :=
  { w with line := w.line ++ w.blanks ++ w.word, blanks := [], word := [] }

/-- Puts the pending word on the line if the glyph ends it, or if there is no room for the glyph
behind it on a line of its own. -/
def settleIfDue (width : Nat) (glyph : Glyph) (w : Wrapping) : Wrapping :=
  let needed := totalWidth w.word + totalWidth w.blanks + glyph.width
  if w.inWord && glyph.isBreak || w.line.isEmpty && needed > width then w.settle else w

/-- Whether the glyph does not fit behind what is pending. -/
def isFull (width : Nat) (glyph : Glyph) (w : Wrapping) : Bool :=
  let used := totalWidth w.line
  used ≥ width ||
    glyph.width > 0 && used + totalWidth w.blanks + totalWidth w.word ≥ width

/-- Drops glyphs from the front as long as they fit into the room. -/
def dropFitting : (room : Nat) → List Glyph → List Glyph
  | _, [] => []
  | room, glyph :: glyphs =>
    if glyph.width > room then glyph :: glyphs else dropFitting (room - glyph.width) glyphs

/-- Ends the line.  The blanks that would still have fitted on it vanish. -/
def endLine (width : Nat) (w : Wrapping) : Wrapping :=
  { w with
    lines := w.lines ++ [w.line]
    line := []
    blanks := dropFitting (width - totalWidth w.line) w.blanks }

/-- Adds a glyph to the pending blanks or the pending word. -/
def append (glyph : Glyph) (w : Wrapping) : Wrapping :=
  if glyph.isBreak then { w with blanks := w.blanks ++ [glyph], inWord := false }
  else { w with word := w.word ++ [glyph], inWord := true }

/-- Reads a glyph.  A blank right behind a full line vanishes. -/
def step (width : Nat) (w : Wrapping) (glyph : Glyph) : Wrapping :=
  let w := w.settleIfDue width glyph
  if w.isFull width glyph then
    let w := w.endLine width
    if glyph.isBreak && w.blanks.isEmpty then w else w.append glyph
  else w.append glyph

/-- The lines at the end of the text.  A text of blanks that were not broken gives an empty line in
front of theirs. -/
def finish (w : Wrapping) : List (List Glyph) :=
  let blankOnly := w.line.isEmpty && w.word.isEmpty && !w.blanks.isEmpty
  let lines := if blankOnly then w.lines ++ [[]] else w.lines
  let last := w.settle.line
  let lines := if last.isEmpty then lines else lines ++ [last]
  if lines.isEmpty then [[]] else lines

end Wrapping

/-- A drawn text broken into lines for the given width.  Glyphs that are wider than a line are left
out. -/
def wrap (width : Nat) (glyphs : List Glyph) : List (List Glyph) :=
  ((glyphs.filter fun glyph => glyph.width ≤ width).foldl (Wrapping.step width) {}).finish

/-- Drawn texts in an area one below the other, each wrapped: the lines that are shown from the line
`scroll` on. -/
def wrapped (texts : List (List Glyph)) (scroll width height : Nat) : List (List Glyph) :=
  let lines := if width = 0 then [] else texts.flatMap (wrap width)
  (lines.drop scroll).take height

end DeclAtlas.Screen
