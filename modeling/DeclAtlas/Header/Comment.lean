import DeclAtlas.Text.Basic

/-!
# Block comments in a header

A header may hold comments `/* … */`.  They are removed from left to right; text that comes
together when a comment is removed may open the next one, and a comment that is never closed
reaches to the end.
-/

namespace DeclAtlas.Header

/-- Removes the comments from a text.  The first argument is what has been kept so far, the last
character first; the second says whether a comment is open. -/
def dropComments : Text → Bool → Text → Text
  | kept, _, [] => kept.reverse
  | kept, true, '*' :: '/' :: rest => dropComments kept false rest
  | kept, true, _ :: rest => dropComments kept true rest
  | '/' :: kept, false, '*' :: rest => dropComments kept true rest
  | kept, false, c :: rest => dropComments (c :: kept) false rest

/-- The text without comments and without blanks around what is left. -/
def stripComments (t : Text) : Text :=
  Text.trim (dropComments [] false t)

end DeclAtlas.Header
