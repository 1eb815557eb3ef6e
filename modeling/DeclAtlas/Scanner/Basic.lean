import DeclAtlas.Condition.Directive
import DeclAtlas.Header.Basic
import DeclAtlas.Source.Fault
import DeclAtlas.Tree.Basic

/-!
# The scanner's state

A source is read once, character by character, without a grammar.  What a character means depends
on the mode in which it is met: literals, comments, directive lines and skipped branches are passed
over, and only plain text has structure.  There the characters `,` `;` and the braces cut the text
into headers, and braces open and close the scopes that receive declarations.

The state holds all that was read, so that a header can be cut out of it when its boundary is met.
It never looks ahead: reading two texts one after the other is reading their concatenation.
-/

namespace DeclAtlas

/-- How the next character is read.  Where something has been opened, the mode holds the offset of
its first character. -/
inductive Mode where
  /-- Structural text. -/
  | plain
  /-- Structural text, just behind a slash that may open a comment. -/
  | slash
  /-- Inside a string literal; backslashes mean nothing in a verbatim one. -/
  | string (openedAt : Nat) (verbatim : Bool)
  /-- Inside a string literal, just behind a backslash. -/
  | stringEscape (openedAt : Nat)
  /-- Structural text, just behind a quote of a verbatim string; a second quote stands for a quote
  in the string, which then goes on. -/
  | verbatimQuote (openedAt : Nat)
  /-- Inside a character literal. -/
  | char (openedAt : Nat)
  /-- Inside a character literal, just behind a backslash. -/
  | charEscape (openedAt : Nat)
  /-- Behind a character literal that met the end of its line: nothing more is read. -/
  | brokenChar (openedAt : Nat)
  /-- Behind `//`, up to the end of the line. -/
  | lineComment (openedAt : Nat)
  /-- Behind `///`, up to the end of the line, which is documentation. -/
  | docComment (openedAt : Nat)
  /-- Inside a comment `/* … */`. -/
  | blockComment (openedAt : Nat)
  /-- On a directive line; the region left out of headers began at `regionStart`. -/
  | directive (lineStart regionStart : Nat)
  /-- In a branch that is left out, up to the next directive line. -/
  | skipped (regionStart : Nat)
  deriving DecidableEq, Repr

/-- A block whose content is passed over. -/
structure Body where
  /-- The number of open braces right behind the one that opened the block. -/
  depth : Nat
  /-- Whether the block is the value of a property rather than the body of a declaration. -/
  isInitializer : Bool
  deriving DecidableEq, Repr

/-- An open block that receives declarations. -/
structure Scope where
  /-- The node that receives them. -/
  node : NodeId
  /-- The offset of the opening brace. -/
  openedAt : Nat
  deriving DecidableEq, Repr

/-- The state of the scanner after some part of a source. -/
structure Scanner where
  /-- What has been read. -/
  source : Source := {}
  /-- The tree with all declarations met so far. -/
  tree : Tree
  /-- The node that receives declarations outside all blocks. -/
  base : NodeId
  /-- The state of conditional compilation. -/
  conditions : Conditions := {}
  /-- How the next character is read. -/
  mode : Mode := .plain
  /-- Whether the current line holds only blanks so far. -/
  lineBlank : Bool := true
  /-- The offset at which the current header starts. -/
  spanStart : Nat := 0
  /-- The comments, directives and skipped branches in the current header, in order. -/
  excluded : List Range := []
  /-- The documentation lines for the next declaration. -/
  summary : Text := []
  /-- The number of open parentheses and square brackets outside bodies. -/
  brackets : Nat := 0
  /-- The offset of the outermost open bracket. -/
  bracketOpenedAt : Nat := 0
  /-- Whether a `<` may still be part of a type, so that a comma does not end the header. -/
  maybeGeneric : Bool := false
  /-- The number of open braces, those in bodies included. -/
  nesting : Nat := 0
  /-- The body or initializer that is being passed over. -/
  body : Option Body := none
  /-- The open blocks, the innermost first. -/
  scopes : List Scope := []
  deriving DecidableEq, Repr

namespace Scanner

/-- The scanner at the start of a source whose declarations go below `base`. -/
def start (tree : Tree) (base : NodeId) (symbols : Symbols) : Scanner :=
  { tree, base, conditions := { symbols } }

/-- The offset of the next character. -/
def offset (s : Scanner) : Nat :=
  s.source.size

/-- The node that receives the next declaration. -/
def current (s : Scanner) : NodeId :=
  match s.scopes with
  | [] => s.base
  | scope :: _ => scope.node

/-- Ends a region that is left out of headers and goes back to plain text. -/
def exclude (s : Scanner) (start stop : Nat) : Scanner :=
  { s with excluded := s.excluded ++ [{ start, stop }], mode := .plain }

/-- Starts a new header at an offset. -/
def startSpan (s : Scanner) (offset : Nat) : Scanner :=
  { s with spanStart := offset, excluded := [] }

end Scanner

end DeclAtlas
