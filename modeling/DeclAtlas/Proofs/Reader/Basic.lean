import Mathlib
import DeclAtlas.Scanner.Run

/-!
# Reading without offsets

The scanner keeps all that was read and cuts headers out of it by offsets.  What it does next
depends on much less: on the header gathered so far, on what a comment or directive line has held
so far, and on the last two characters.  A `Reader` holds just this.  It gathers the header as it
goes, so it has no source and no offsets, and two readers in the same state do the same with the
same text, wherever in a source they stand.

* `Reader.Mode.next`: how the next character is read depends on the mode, the last characters and
  whether the line is blank, and on nothing that has been declared.
* `Builder.read`: what a character adds to the header and to the tree.
* `Reader.step`: both together.  Only the end of a directive line looks at the state of conditional
  compilation.

That the scanner reads like a reader is proved in `DeclAtlas.Proofs.Reader.Refinement`.
-/

namespace DeclAtlas

/-- What the last characters make of the next one. -/
inductive Trail where
  /-- Nothing. -/
  | other
  /-- Behind `@`: a quote opens a verbatim string. -/
  | sign
  /-- Behind `@$`: a quote opens a verbatim string. -/
  | signDollar
  /-- Behind `=`: a closing bracket closes nothing. -/
  | equals
  deriving DecidableEq, Repr

namespace Trail

/-- The trail with one more character. -/
def next : Trail → Char → Trail
  | _, '@' => .sign
  | .sign, '$' => .signDollar
  | _, '=' => .equals
  | _, _ => .other

/-- Whether a quote that comes next opens a verbatim string. -/
def opensVerbatim : Trail → Bool
  | .sign | .signDollar => true
  | .other | .equals => false

end Trail

/-- How the next character is read. -/
inductive Reader.Mode where
  | plain
  | slash
  | string (verbatim : Bool)
  | stringEscape
  | verbatimQuote
  | char
  | charEscape
  | brokenChar
  /-- `fresh` says that only the two slashes have been read. -/
  | lineComment (fresh : Bool)
  /-- `line` is what stands behind the three slashes. -/
  | docComment (line : Text)
  /-- `starred` says that a slash would end the comment. -/
  | blockComment (starred : Bool)
  /-- `line` is the directive line so far. -/
  | directive (line : Text)
  | skipped
  deriving DecidableEq, Repr

namespace Reader.Mode

/-- The mode behind a character of plain text. -/
def nextPlain (trail : Trail) (lineBlank : Bool) (c : Char) : Mode :=
  match c with
  | '"' => .string trail.opensVerbatim
  | '\'' => .char
  | '/' => .slash
  | '#' => if lineBlank then .directive ['#'] else .plain
  | _ => .plain

/-- The mode behind one more character, which does not end a directive line. -/
def next (trail : Trail) (lineBlank : Bool) (c : Char) : Mode → Mode
  | .plain => nextPlain trail lineBlank c
  | .slash =>
    if c = '/' then .lineComment true else if c = '*' then .blockComment false
    else nextPlain trail lineBlank c
  | .string verbatim =>
    if c = '"' then if verbatim then .verbatimQuote else .plain
    else if c = '\\' ∧ verbatim = false then .stringEscape else .string verbatim
  | .stringEscape => .string false
  | .verbatimQuote => if c = '"' then .string true else nextPlain trail lineBlank c
  | .char =>
    if c = '\\' then .charEscape else if c = '\'' then .plain
    else if c = '\n' then .brokenChar else .char
  | .charEscape => .char
  | .brokenChar => .brokenChar
  | .lineComment fresh =>
    if c = '\n' then .plain else if c = '/' ∧ fresh = true then .docComment []
    else .lineComment false
  | .docComment line => if c = '\n' then .plain else .docComment (line ++ [c])
  | .blockComment starred => if c = '/' ∧ starred = true then .plain else .blockComment (c == '*')
  | .directive line => .directive (line ++ [c])
  | .skipped => if c = '#' ∧ lineBlank = true then .directive ['#'] else .skipped

end Reader.Mode

/-! ## Headers and the tree -/

/-- What has been declared and what is open, with the header gathered so far. -/
structure Builder where
  /-- The tree with all declarations met so far. -/
  tree : Tree
  /-- The node that receives declarations outside all blocks. -/
  base : NodeId
  /-- The header gathered so far, without a slash that may open a comment. -/
  pending : Text := []
  /-- The documentation lines for the next declaration. -/
  summary : Text := []
  /-- The number of open brackets outside bodies. -/
  brackets : Nat := 0
  /-- Whether a `<` may still be part of a type. -/
  maybeGeneric : Bool := false
  /-- The number of open braces. -/
  nesting : Nat := 0
  /-- The body or initializer that is being passed over. -/
  body : Option Body := none
  /-- The nodes of the open blocks, the innermost first. -/
  scopes : List NodeId := []

namespace Builder

/-- Adds a character to the header. -/
def collect (b : Builder) (c : Char) : Builder :=
  { b with pending := b.pending ++ [c] }

/-- The node that receives the next declaration. -/
def current (b : Builder) : NodeId :=
  b.scopes.headD b.base

/-- The place in which the next header is read. -/
def context (b : Builder) (boundary : Boundary) : HeaderContext :=
  { boundary
    parent := b.tree.kind? b.current
    previous := (b.tree.lastChild? b.current).bind b.tree.kind? }

/-- Takes in what a header says, and gives the node that a block behind it belongs to. -/
def take (b : Builder) (boundary : Boundary) : Header → Builder × NodeId
  | .importing => (b, b.current)
  | .initializer =>
    ({ b with body := some { depth := b.nesting, isInitializer := true } }, b.current)
  | .nothing => ({ b with summary := [] }, b.current)
  | .declaration element opensBody =>
    let inherits := element.type.isAbsent && boundary != .opening
    let (tree, node) := b.tree.declare b.current inherits { element with summary := b.summary }
    let body := if opensBody then some { depth := b.nesting, isInitializer := false } else b.body
    ({ b with tree, summary := [], body }, node)

/-- Opens or closes a scope at a boundary. -/
def moveScope (b : Builder) (boundary : Boundary) (node : NodeId) : Builder :=
  match boundary with
  | .opening => { b with scopes := node :: b.scopes }
  | .closing => { b with scopes := b.scopes.tail }
  | .comma | .semicolon => b

/-- Leaves a body or initializer behind its closing brace. -/
def leaveBody (b : Builder) (body : Body) : Builder :=
  { b with
    body := none
    scopes := b.scopes.tail
    summary := if body.isInitializer then b.summary else []
    pending := [] }

/-- Reads the header in front of a boundary and starts the next one behind it. -/
def readHeader (b : Builder) (boundary : Boundary) : Builder :=
  let reading := Header.read (b.context boundary) b.pending
  let (taken, node) := { b with pending := [] }.take boundary reading
  taken.moveScope boundary node

/-- Meets a boundary character in plain text. -/
def boundary (b : Builder) (boundary : Boundary) (c : Char) : Builder :=
  if 0 < b.brackets ∨ (boundary = .comma ∧ b.maybeGeneric) then b.collect c
  else
    let b := { b with maybeGeneric := false, nesting := Scanner.moveNesting b.nesting boundary }
    match b.body with
    | none => b.readHeader boundary
    | some body =>
      if boundary = .closing ∧ b.nesting < body.depth then b.leaveBody body else b.collect c

/-- Meets an opening bracket. -/
def openBracket (b : Builder) : Builder :=
  if b.body.isSome then b else { b with brackets := b.brackets + 1 }

/-- Meets a closing bracket. -/
def closeBracket (b : Builder) (trail : Trail) : Builder :=
  let closes := trail != .equals && b.body.isNone
  { b with brackets := if closes then b.brackets - 1 else b.brackets, maybeGeneric := false }

/-- Adds a documentation line. -/
def document (b : Builder) (line : Text) : Builder :=
  { b with summary := b.summary ++ Text.trim line ++ ['\n'] }

/-- Takes in a character of plain text.  A slash waits for the next character. -/
def readPlain (b : Builder) (trail : Trail) (lineBlank : Bool) (c : Char) : Builder :=
  match c with
  | '/' => b
  | '#' => if lineBlank then b else b.collect c
  | ',' => b.boundary .comma c
  | ';' => b.boundary .semicolon c
  | '\x7b' => b.boundary .opening c
  | '\x7d' => b.boundary .closing c
  | '(' | '[' => b.openBracket.collect c
  | ')' | ']' => (b.closeBracket trail).collect c
  | '<' => { b with maybeGeneric := true }.collect c
  | '>' | '?' => { b with maybeGeneric := false }.collect c
  | _ => b.collect c

/-- Takes in a character that is read in the given mode. -/
def read (b : Builder) (trail : Trail) (lineBlank : Bool) (c : Char) : Reader.Mode → Builder
  | .plain | .verbatimQuote => b.readPlain trail lineBlank c
  | .slash => if c = '/' ∨ c = '*' then b else (b.collect '/').readPlain trail lineBlank c
  | .string _ | .stringEscape | .char | .charEscape | .brokenChar => b.collect c
  | .docComment line => if c = '\n' then b.document line else b
  | .lineComment _ | .blockComment _ | .directive _ | .skipped => b

end Builder

/-! ## Readers -/

/-- The state of reading, without offsets. -/
structure Reader extends Builder where
  /-- The state of conditional compilation. -/
  conditions : Conditions
  /-- How the next character is read. -/
  mode : Reader.Mode := .plain
  /-- The last characters, as far as they matter. -/
  trail : Trail := .other
  /-- Whether the current line holds only blanks so far. -/
  lineBlank : Bool := true

namespace Reader

/-- The reader at the start of a source whose declarations go below `base`. -/
def start (tree : Tree) (base : NodeId) (symbols : Symbols) : Reader :=
  { tree, base, conditions := { symbols } }

/-- Carries out a directive line. -/
def endDirective (r : Reader) (line : Text) : Reader :=
  let conditions := r.conditions.apply (Directive.ofLine line)
  { r with conditions, mode := if conditions.isSkipping then .skipped else .plain }

/-- Reads a character that does not end a directive line. -/
def advance (r : Reader) (c : Char) : Reader :=
  { r with
    toBuilder := r.read r.trail r.lineBlank c r.mode
    mode := r.mode.next r.trail r.lineBlank c }

/-- Applies the rule of the current mode to a character. -/
def dispatch (r : Reader) (c : Char) : Reader :=
  match r.mode, c with
  | .directive line, '\n' => r.endDirective line
  | _, _ => r.advance c

/-- Whether the line is still blank behind one more character. -/
def blankBehind (lineBlank : Bool) (c : Char) : Bool :=
  if c == '\n' then true else lineBlank && Text.isBlank c

/-- Passes over a character that has been read. -/
def keep (r : Reader) (c : Char) : Reader :=
  { r with trail := r.trail.next c, lineBlank := blankBehind r.lineBlank c }

/-- Reads one character. -/
def step (r : Reader) (c : Char) : Reader :=
  (r.dispatch c).keep c

/-- Reads a text. -/
def scan (r : Reader) (t : Text) : Reader :=
  t.foldl step r

/-- Carries out a directive line that the end of the source ends. -/
def endOfSource (r : Reader) : Reader :=
  match r.mode with
  | .directive line => r.endDirective line
  | _ => r

/-- What the end of the source leaves open: a literal or comment, then a bracket, then a block. -/
def faultKind? (r : Reader) : Option FaultKind :=
  match r.mode with
  | .string _ | .stringEscape => some .unterminatedString
  | .char | .charEscape | .brokenChar => some .unterminatedChar
  | .blockComment _ => some .unterminatedComment
  | _ =>
    if 0 < r.brackets then some .unclosedBracket
    else if r.scopes.isEmpty then none
    else some .unclosedBlock

@[simp] theorem scan_nil (r : Reader) : r.scan [] = r := rfl

@[simp] theorem scan_cons (r : Reader) (c : Char) (t : Text) :
    r.scan (c :: t) = (r.step c).scan t := rfl

/-- Texts are read one after the other. -/
theorem scan_append (r : Reader) (t u : Text) : r.scan (t ++ u) = (r.scan t).scan u :=
  List.foldl_append

end Reader

end DeclAtlas
