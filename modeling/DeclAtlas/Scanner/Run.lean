import DeclAtlas.Scanner.Step

/-!
# Reading a source

Reading a text is reading its characters one after the other.  At the end of the source a
directive line without a line break is still carried out, and whatever is open is a fault: first a
literal or comment, then a bracket, then a block.
-/

namespace DeclAtlas

namespace Scanner

/-- Reads a text. -/
def scan (s : Scanner) (t : Text) : Scanner :=
  t.foldl step s

/-- Carries out a directive line that the end of the source ends. -/
def endOfSource (s : Scanner) : Scanner :=
  match s.mode with
  | .directive lineStart regionStart => s.endDirective lineStart regionStart
  | _ => s

/-- The literal or comment that the end of the source leaves open. -/
def openLexeme? (s : Scanner) : Option (FaultKind × Nat) :=
  match s.mode with
  | .string openedAt _ | .stringEscape openedAt => some (.unterminatedString, openedAt)
  | .char openedAt | .charEscape openedAt | .brokenChar openedAt =>
    some (.unterminatedChar, openedAt)
  | .blockComment openedAt => some (.unterminatedComment, openedAt)
  | _ => none

/-- The bracket that the end of the source leaves open. -/
def openBracket? (s : Scanner) : Option (FaultKind × Nat) :=
  if 0 < s.brackets then some (.unclosedBracket, s.bracketOpenedAt) else none

/-- The block that the end of the source leaves open. -/
def openBlock? (s : Scanner) : Option (FaultKind × Nat) :=
  s.scopes.head?.map fun scope => (.unclosedBlock, scope.openedAt)

/-- The fault of a source that ends here. -/
def fault? (s : Scanner) : Option Fault :=
  (s.openLexeme?.or (s.openBracket?.or s.openBlock?)).map fun (kind, offset) =>
    Fault.ofOffset s.source kind offset

end Scanner

/-- What reading a source gives.  The tree is there also if the source has a fault: it holds what
was declared up to the end of the reading. -/
structure Reading where
  /-- The tree with the declarations of the source. -/
  tree : Tree
  /-- The symbols defined at the end. -/
  symbols : Symbols
  /-- What was opened and never closed. -/
  fault : Option Fault
  deriving DecidableEq, Repr

/-- Adds the declarations of a source below a node of a tree. -/
def Tree.read (tree : Tree) (base : NodeId) (symbols : Symbols) (t : Text) : Reading :=
  let s := ((Scanner.start tree base symbols).scan t).endOfSource
  { tree := s.tree, symbols := s.conditions.symbols, fault := s.fault? }

end DeclAtlas
