import DeclAtlas.Source.Basic

/-!
# Faults of a source

Reading a source fails only because something that was opened is never closed.  A fault names the
kind of construct and the place where it was opened.
-/

namespace DeclAtlas

/-- What was opened and never closed. -/
inductive FaultKind where
  | unterminatedString
  | unterminatedChar
  | unterminatedComment
  | unclosedBracket
  | unclosedBlock
  deriving DecidableEq, Repr

/-- The words for a kind of fault. -/
def FaultKind.describe : FaultKind → Text
  | .unterminatedString => "unterminated string literal"
  | .unterminatedChar => "unterminated character literal"
  | .unterminatedComment => "unterminated block comment"
  | .unclosedBracket => "unclosed parenthesis or bracket"
  | .unclosedBlock => "unclosed block"

/-- A construct that is never closed, with the place of its opening character. -/
structure Fault where
  /-- What was opened. -/
  kind : FaultKind
  /-- The offset of the opening character. -/
  offset : Nat
  /-- The line and column of that offset. -/
  location : Location
  deriving DecidableEq, Repr

namespace Fault

/-- The fault of a construct opened at an offset of a source. -/
def ofOffset (source : Source) (kind : FaultKind) (offset : Nat) : Fault :=
  { kind, offset, location := source.location offset }

/-- The message that reports a fault. -/
def message (fault : Fault) : Text :=
  "parse error at line " ++ Text.ofNat fault.location.line ++ ", column " ++
    Text.ofNat fault.location.column ++ " (offset " ++ Text.ofNat fault.offset ++ "): " ++
    fault.kind.describe

end Fault

end DeclAtlas
