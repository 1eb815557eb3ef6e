import Mathlib
import DeclAtlas.Proofs.Condition.DirectiveLine
import DeclAtlas.Scanner.Run

/-!
# Conditional programs

Sources with well-formed conditional compilation, as syntax trees: text lines, definitions, other
directives and groups `#if … #elif … #else … #endif` nested to any depth.

* `Program.render` writes a program as the source that it stands for.
* `Program.select` says what conditional compilation means, by recursion: which text lines are
  left, and which symbols are defined at the end.

Each line type carries what makes it a line of its kind, so every value of `Program` is a
well-formed program.
-/

namespace DeclAtlas.Conditional

/-! ## Lines -/

/-- The symbol or condition of a directive. -/
structure Argument where
  /-- The argument as it is written. -/
  text : Text
  /-- No blanks stand around it. -/
  trimmed : Text.trim text = text
  /-- It holds no comment. -/
  noComment : ¬ "//".toList <:+: text
  /-- It stays on its line. -/
  noBreak : '\n' ∉ text

/-- A text line, without its line break. -/
structure TextLine where
  /-- The characters of the line. -/
  text : Text
  /-- It is one line. -/
  noBreak : '\n' ∉ text
  /-- It is not a directive line. -/
  unsigned : (Text.trimStart text).head? ≠ some '#'
  /-- Read from plain text, it leads back to plain text. -/
  closed : ((Scanner.start (Tree.ofLabel []) Tree.root {}).scan (text ++ ['\n'])).mode = .plain

/-- A directive that does nothing. -/
structure OtherDirective where
  /-- The name of the directive. -/
  name : Text
  /-- What follows the name. -/
  tail : Text
  /-- The name is a name. -/
  isName : Directive.IsName name
  /-- The name is not one of those that do something. -/
  notKeyword : name ∉ Directive.keywords
  /-- A blank ends the name. -/
  spaced : ∀ c ∈ tail.head?, Text.isBlank c = true
  /-- It stays on its line. -/
  noBreak : '\n' ∉ name ++ tail

/-! ## Programs -/

mutual

/-- A list of lines and groups. -/
inductive Program where
  | done
  | text (line : TextLine) (rest : Program)
  | define (name : Argument) (rest : Program)
  | undefine (name : Argument) (rest : Program)
  | other (directive : OtherDirective) (rest : Program)
  /-- A group with its first branch, its other branches and what follows it. -/
  | group (condition : Argument) (branch : Program) (others : Branches) (rest : Program)

/-- The branches of a group behind the first one. -/
inductive Branches where
  | endIf
  | otherwise (branch : Program)
  | elseIf (condition : Argument) (branch : Program) (others : Branches)

end

mutual

/-- The source that a program stands for. -/
def Program.render : Program → Text
  | .done => []
  | .text line rest => line.text ++ '\n' :: rest.render
  | .define name rest => Directive.line "define" name.text ++ '\n' :: rest.render
  | .undefine name rest => Directive.line "undef" name.text ++ '\n' :: rest.render
  | .other directive rest => '#' :: (directive.name ++ directive.tail) ++ '\n' :: rest.render
  | .group condition branch others rest =>
    Directive.line "if" condition.text ++
      '\n' :: (branch.render ++ others.render ++ rest.render)

/-- The source of the branches, up to the end of the group. -/
def Branches.render : Branches → Text
  | .endIf => '#' :: "endif".toList ++ ['\n']
  | .otherwise branch =>
    '#' :: "else".toList ++ '\n' :: (branch.render ++ ('#' :: "endif".toList ++ ['\n']))
  | .elseIf condition branch others =>
    Directive.line "elif" condition.text ++ '\n' :: (branch.render ++ others.render)

end

/-- What conditional compilation leaves. -/
structure Selection where
  /-- The text lines that are read. -/
  text : Text
  /-- The symbols defined at the end. -/
  symbols : Symbols
  deriving DecidableEq, Repr

/-- One selection behind another. -/
def Selection.after (front : Text) (selection : Selection) : Selection :=
  { selection with text := front ++ selection.text }

mutual

/-- What is left of a program, where `active` says whether it is read at all. -/
def Program.select (active : Bool) (symbols : Symbols) : Program → Selection
  | .done => { text := [], symbols }
  | .text line rest =>
    (rest.select active symbols).after (if active then line.text ++ ['\n'] else [])
  | .define name rest => rest.select active (if active then symbols.define name.text else symbols)
  | .undefine name rest =>
    rest.select active (if active then symbols.undefine name.text else symbols)
  | .other _ rest => rest.select active symbols
  | .group condition branch others rest =>
    let holds := Condition.holds symbols condition.text
    let first := branch.select (active && holds) symbols
    let more := others.select active holds first.symbols
    (rest.select active more.symbols).after (first.text ++ more.text)

/-- What is left of the branches behind the first one, where `taken` says whether a condition of the
group has held. -/
def Branches.select (active taken : Bool) (symbols : Symbols) : Branches → Selection
  | .endIf => { text := [], symbols }
  | .otherwise branch => branch.select (active && !taken) symbols
  | .elseIf condition branch others =>
    let holds := Condition.holds symbols condition.text
    let first := branch.select (active && holds) symbols
    (others.select active (taken || holds) first.symbols).after first.text

end

end DeclAtlas.Conditional
