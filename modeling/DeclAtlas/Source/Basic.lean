import DeclAtlas.Text.Basic

/-!
# Source texts

A source is a text addressed by character offsets.  Besides plain slices it offers slices with
ranges left out, from which declaration headers are made, and the line and column of an offset.
-/

namespace DeclAtlas

/-- A range of offsets, the last one not included. -/
structure Range where
  /-- The first offset of the range. -/
  start : Nat
  /-- The first offset after the range. -/
  stop : Nat
  deriving DecidableEq, Repr

/-- A line and a column, both counted from one. -/
structure Location where
  /-- One more than the number of line breaks before the place. -/
  line : Nat
  /-- One more than the number of characters since the last line break. -/
  column : Nat
  deriving DecidableEq, Repr

namespace Location

/-- The first character of a text. -/
def first : Location := { line := 1, column := 1 }

/-- The place after the given character. -/
def next (location : Location) (c : Char) : Location :=
  if c == '\n' then { line := location.line + 1, column := 1 }
  else { location with column := location.column + 1 }

end Location

/-- A text addressed by character offsets. -/
structure Source where
  /-- The characters in order. -/
  chars : Array Char := #[]
  deriving DecidableEq, Repr

namespace Source

instance : Inhabited Source := ⟨{}⟩

/-- The source that holds a text. -/
def ofText (t : Text) : Source := { chars := t.toArray }

/-- The number of characters. -/
def size (source : Source) : Nat :=
  source.chars.size

/-- Whether there is no character. -/
def isEmpty (source : Source) : Bool :=
  source.chars.isEmpty

/-- The source with one more character. -/
def push (source : Source) (c : Char) : Source :=
  { chars := source.chars.push c }

/-- The character at an offset. -/
def get? (source : Source) (offset : Nat) : Option Char :=
  source.chars[offset]?

/-- The character just before an offset. -/
def before? (source : Source) (offset : Nat) : Option Char :=
  match offset with
  | 0 => none
  | previous + 1 => source.get? previous

/-- The characters from `start` up to `stop`, as far as there are any. -/
def slice (source : Source) (start stop : Nat) : Text :=
  (source.chars.extract start stop).toList

/-- The characters from `start` up to `stop` that lie in none of the ranges, which are taken in
increasing order. -/
def sliceExcluding (source : Source) (start stop : Nat) : List Range → Text
  | [] => source.slice start stop
  | range :: ranges =>
    if range.stop ≤ start || stop ≤ range.start then sliceExcluding source start stop ranges
    else
      source.slice start range.start ++
        sliceExcluding source (max start range.stop) stop ranges

/-- The line and column of an offset. -/
def location (source : Source) (offset : Nat) : Location :=
  (source.slice 0 offset).foldl Location.next Location.first

end Source

end DeclAtlas
