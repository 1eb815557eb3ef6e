import DeclAtlas.Scanner.Boundary

/-!
# Reading one character

Each mode has its own rule for the next character.  `Scanner.step` applies the rule of the current
mode, keeps the character and notes whether the line is still blank.
-/

namespace DeclAtlas.Scanner

/-! ## Plain text -/

/-- Whether the quote that comes next opens a verbatim string: it stands behind `@` or `@$`. -/
def opensVerbatim (s : Scanner) : Bool :=
  s.source.before? s.offset == some '@' ||
    (s.source.before? s.offset == some '$' && s.source.before? (s.offset - 1) == some '@')

/-- Meets an opening bracket. -/
def openBracket (s : Scanner) : Scanner :=
  if s.body.isSome then s
  else
    { s with
      bracketOpenedAt := if s.brackets = 0 then s.offset else s.bracketOpenedAt
      brackets := s.brackets + 1 }

/-- Meets a closing bracket.  Right behind an equals sign it closes nothing. -/
def closeBracket (s : Scanner) : Scanner :=
  let closes := s.source.before? s.offset != some '=' && s.body.isNone
  { s with brackets := if closes then s.brackets - 1 else s.brackets, maybeGeneric := false }

/-- Reads a character of plain text. -/
def stepPlain (s : Scanner) (c : Char) : Scanner :=
  let s := { s with mode := .plain }
  match c with
  | '"' => { s with mode := .string s.offset s.opensVerbatim }
  | '\'' => { s with mode := .char s.offset }
  | '/' => { s with mode := .slash }
  | '#' => if s.lineBlank then { s with mode := .directive s.offset s.offset } else s
  | ',' => s.boundary .comma
  | ';' => s.boundary .semicolon
  | '\x7b' => s.boundary .opening
  | '\x7d' => s.boundary .closing
  | '(' | '[' => s.openBracket
  | ')' | ']' => s.closeBracket
  | '<' => { s with maybeGeneric := true }
  | '>' | '?' => { s with maybeGeneric := false }
  | _ => s

/-- Reads a character right behind a slash. -/
def stepSlash (s : Scanner) (c : Char) : Scanner :=
  match c with
  | '/' => { s with mode := .lineComment (s.offset - 1) }
  | '*' => { s with mode := .blockComment (s.offset - 1) }
  | _ => s.stepPlain c

/-! ## Literals -/

/-- Reads a character of a string literal. -/
def stepString (s : Scanner) (openedAt : Nat) (verbatim : Bool) (c : Char) : Scanner :=
  match c, verbatim with
  | '\\', false => { s with mode := .stringEscape openedAt }
  | '"', false => { s with mode := .plain }
  | '"', true => { s with mode := .verbatimQuote openedAt }
  | _, _ => s

/-- Reads a character right behind a quote of a verbatim string. -/
def stepVerbatimQuote (s : Scanner) (openedAt : Nat) (c : Char) : Scanner :=
  match c with
  | '"' => { s with mode := .string openedAt true }
  | _ => s.stepPlain c

/-- Reads a character of a character literal. -/
def stepChar (s : Scanner) (openedAt : Nat) (c : Char) : Scanner :=
  match c with
  | '\\' => { s with mode := .charEscape openedAt }
  | '\'' => { s with mode := .plain }
  | '\n' => { s with mode := .brokenChar openedAt }
  | _ => s

/-! ## Comments -/

/-- Reads a character of a line comment; a third slash right behind the first two makes it
documentation. -/
def stepLineComment (s : Scanner) (openedAt : Nat) (c : Char) : Scanner :=
  match c with
  | '/' => if s.offset = openedAt + 2 then { s with mode := .docComment openedAt } else s
  | '\n' => s.exclude openedAt (s.offset + 1)
  | _ => s

/-- Reads a character of a documentation line.  At its end the line joins the summary of the next
declaration. -/
def stepDocComment (s : Scanner) (openedAt : Nat) (c : Char) : Scanner :=
  match c with
  | '\n' =>
    let line := Text.trim (s.source.slice (openedAt + 3) s.offset)
    { s with summary := s.summary ++ line ++ ['\n'] }.exclude openedAt (s.offset + 1)
  | _ => s

/-- Reads a character of a block comment. -/
def stepBlockComment (s : Scanner) (openedAt : Nat) (c : Char) : Scanner :=
  if c == '/' && openedAt + 3 ≤ s.offset && s.source.before? s.offset == some '*' then
    s.exclude openedAt (s.offset + 1)
  else s

/-! ## Directives -/

/-- Carries out the directive line that ends before the next character, and either goes back to
plain text or passes over the branch that starts here. -/
def endDirective (s : Scanner) (lineStart regionStart : Nat) : Scanner :=
  let line := s.source.slice lineStart s.offset
  let s := { s with conditions := s.conditions.apply (Directive.ofLine line) }
  if s.conditions.isSkipping then { s with mode := .skipped regionStart }
  else s.exclude regionStart (s.offset + 1)

/-- Reads a character of a directive line. -/
def stepDirective (s : Scanner) (lineStart regionStart : Nat) (c : Char) : Scanner :=
  match c with
  | '\n' => s.endDirective lineStart regionStart
  | _ => s

/-- Reads a character of a branch that is left out. -/
def stepSkipped (s : Scanner) (regionStart : Nat) (c : Char) : Scanner :=
  match c with
  | '#' => if s.lineBlank then { s with mode := .directive s.offset regionStart } else s
  | _ => s

/-! ## One step -/

/-- Applies the rule of the current mode to a character. -/
def dispatch (s : Scanner) (c : Char) : Scanner :=
  match s.mode with
  | .plain => s.stepPlain c
  | .slash => s.stepSlash c
  | .string openedAt verbatim => s.stepString openedAt verbatim c
  | .stringEscape openedAt => { s with mode := .string openedAt false }
  | .verbatimQuote openedAt => s.stepVerbatimQuote openedAt c
  | .char openedAt => s.stepChar openedAt c
  | .charEscape openedAt => { s with mode := .char openedAt }
  | .brokenChar _ => s
  | .lineComment openedAt => s.stepLineComment openedAt c
  | .docComment openedAt => s.stepDocComment openedAt c
  | .blockComment openedAt => s.stepBlockComment openedAt c
  | .directive lineStart regionStart => s.stepDirective lineStart regionStart c
  | .skipped regionStart => s.stepSkipped regionStart c

/-- Keeps a character that has been read. -/
def keep (s : Scanner) (c : Char) : Scanner :=
  { s with
    source := s.source.push c
    lineBlank := if c == '\n' then true else s.lineBlank && Text.isBlank c }

/-- Reads one character. -/
def step (s : Scanner) (c : Char) : Scanner :=
  (s.dispatch c).keep c

end DeclAtlas.Scanner
