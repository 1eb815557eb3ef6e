import DeclAtlas.Screen.Glyph

/-!
# Pictures

A picture is a list of rows of cells.  Text is put into a row in one of two ways.  *Writing* puts
each glyph into its first column and leaves its other columns as they are.  *Inscribing* clears the
other columns of a glyph, stops at a given column and keeps what takes no column in the cell in
front of it.
-/

namespace DeclAtlas.Screen

/-- One column of a row of the screen. -/
structure Cell where
  /-- What is written in it. -/
  text : Text := [' ']
  /-- How it looks. -/
  style : Style := {}
  deriving DecidableEq, Repr, Inhabited

namespace Cell

/-- The cell with a glyph in place of what was written in it. -/
def put (glyph : Glyph) (cell : Cell) : Cell :=
  { text := glyph.text, style := glyph.style.onto cell.style }

/-- The cell with a glyph behind what is written in it. -/
def append (glyph : Glyph) (cell : Cell) : Cell :=
  { text := cell.text ++ glyph.text, style := glyph.style.onto cell.style }

/-- Whether what is written in the cell covers the cell behind it. -/
def isWide (cell : Cell) : Bool :=
  Text.columns cell.text ≥ 2

end Cell

/-- A row of cells. -/
abbrev Strip := List Cell

/-- Rows of cells from top to bottom. -/
abbrev Picture := List Strip

namespace Strip

/-- Cells that hold nothing, in one style. -/
def blank (style : Style) (width : Nat) : Strip :=
  List.replicate width { style }

/-- Writes glyphs one behind the other from a column on. -/
def write : List Glyph → (column : Nat) → Strip → Strip
  | [], _, strip => strip
  | glyph :: glyphs, column, strip =>
    let strip := if glyph.width = 0 then strip else strip.modify column (Cell.put glyph)
    write glyphs (column + glyph.width) strip

/-- Clears so many cells from a column on. -/
def clear (count column : Nat) (strip : Strip) : Strip :=
  (List.range' column count).foldl (fun strip column => strip.modify column fun _ => {}) strip

/-- Inscribes glyphs that are not the first of a text which starts in the column `start`.  None goes
beyond the column `stop`. -/
def inscribeRest (start stop : Nat) : List Glyph → (column : Nat) → Strip → Strip
  | [], _, strip => strip
  | glyph :: glyphs, column, strip =>
    if column + glyph.width > stop then strip
    else
      let strip :=
        if column = start then strip.modify column (Cell.append glyph)
        else if glyph.width = 0 then strip.modify (column - 1) (Cell.append glyph)
        else strip.modify column (Cell.put glyph)
      inscribeRest start stop glyphs (column + glyph.width)
        (clear (glyph.width - 1) (column + 1) strip)

/-- Inscribes glyphs between two columns. -/
def inscribe (start stop : Nat) : List Glyph → Strip → Strip
  | [], strip => strip
  | glyph :: glyphs, strip =>
    if start + glyph.width > stop then strip
    else
      inscribeRest start stop glyphs (start + glyph.width)
        (clear (glyph.width - 1) (start + 1) (strip.modify start (Cell.put glyph)))

/-- Inscribes texts with their styles between two columns.  Each starts where the one in front of it
ends when it is measured as a whole. -/
def inscribeAll (stop : Nat) : List (Style × Text) → (start : Nat) → Strip → Strip
  | [], _, strip => strip
  | (style, t) :: texts, start, strip =>
    let width := Text.columns t
    if width = 0 then inscribeAll stop texts start strip
    else if start ≥ stop then strip
    else inscribeAll stop texts (start + width)
      (inscribe start stop (Glyph.ofText style t) strip)

/-- The strip as a screen shows it: a cell behind a wide one is covered and shows nothing.
`isCovered` tells this of the first cell. -/
def uncovered : (isCovered : Bool) → Strip → Strip
  | _, [] => []
  | isCovered, cell :: cells => (if isCovered then {} else cell) :: uncovered cell.isWide cells

/-- Writing does not change the length of a strip. -/
@[simp]
theorem length_write (glyphs : List Glyph) (column : Nat) (strip : Strip) :
    (write glyphs column strip).length = strip.length := by
  induction glyphs generalizing column strip with
  | nil => rfl
  | cons glyph glyphs ih =>
    simp only [write, ih]
    split
    · rfl
    · exact List.length_modify _ _ _

/-- Covered cells stay in the strip. -/
@[simp]
theorem length_uncovered (isCovered : Bool) (strip : Strip) :
    (uncovered isCovered strip).length = strip.length := by
  induction strip generalizing isCovered with
  | nil => rfl
  | cons cell cells ih => simp only [uncovered, List.length_cons, ih]

end Strip

namespace Picture

/-- Two pictures of one height side by side. -/
def beside (left right : Picture) : Picture :=
  List.zipWith (· ++ ·) left right

/-- Changes the first rows of a picture, each in its own way. -/
def editRows : List (Strip → Strip) → Picture → Picture
  | edit :: edits, row :: rows => edit row :: editRows edits rows
  | _, rows => rows

/-- A row with an edge at each end, cut at the width. -/
def edgedRow (width : Nat) (first middle last : Cell) : Strip :=
  (first :: List.replicate (width - 2) middle ++ [last]).take width

/-- The columns of the texts of a title. -/
def titleWidth (title : List Text) : Nat :=
  title.foldr (fun t total => Text.columns t + total) 0

/-- A frame with a title on its upper side, behind the corner.  A frame that has no room for its
right or lower side goes without it.  The styles are laid over `base`. -/
def frame (base style : Style) (title : List Text) (width height : Nat) : Picture :=
  let edge (c : Char) : Cell := { text := [c], style := style.onto base }
  let titleEnd := 1 + min (titleWidth title) (width - 2)
  let top := Strip.inscribeAll titleEnd (title.map fun t => ({}, t)) 1
    (edgedRow width (edge '┌') (edge '─') (edge '┐'))
  let side := edgedRow width (edge '│') { style := base } (edge '│')
  let bottom := edgedRow width (edge '└') (edge '─') (edge '┘')
  (top :: List.replicate (height - 2) side ++ [bottom]).take height

/-- A frame, with the rows between its upper and lower side changed, each in its own way. -/
def framed (base style : Style) (title : List Text) (width height : Nat)
    (edits : List (Strip → Strip)) : Picture :=
  editRows (id :: edits.take (height - 2)) (frame base style title width height)

/-- The picture as a screen shows it, row behind row: the cells behind wide ones are covered, also
from one row to the next.  `isCovered` tells this of the first cell. -/
def uncovered : (isCovered : Bool) → Picture → Picture
  | _, [] => []
  | isCovered, row :: rows =>
    let behind := (row.getLast?.map Cell.isWide).getD isCovered
    Strip.uncovered isCovered row :: uncovered behind rows

/-- The picture as a screen shows it. -/
def shown (picture : Picture) : Picture :=
  uncovered false picture

end Picture

/-- The first part of a length when it is split at so many percent, to the nearest whole. -/
def share (length percent : Nat) : Nat :=
  (length * percent + 50) / 100

end DeclAtlas.Screen
