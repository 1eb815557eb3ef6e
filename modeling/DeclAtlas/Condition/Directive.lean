import DeclAtlas.Condition.Basic
import DeclAtlas.Condition.Groups

/-!
# Directives

A line that begins with `#` is a directive.  Directives define and undefine symbols and open,
continue and close conditional groups; any other directive is passed over.
-/

namespace DeclAtlas

/-- What a directive line asks for. -/
inductive Directive where
  | define (name : Text)
  | undefine (name : Text)
  | openIf (condition : Text)
  | elseIf (condition : Text)
  | otherwise
  | endIf
  | other
  deriving DecidableEq, Repr

namespace Directive

/-- The text of a directive line without the leading `#`, the blanks around it and a comment at
its end. -/
def body (line : Text) : Text :=
  let t := Text.trimStart ((Text.trim line).dropWhile (· == '#'))
  match Text.cutOn? "//" t with
  | none => t
  | some (front, _) => Text.trimEnd front

/-- Reads a directive line.  The name of the directive ends at the first blank. -/
def ofLine (line : Text) : Directive :=
  let t := body line
  let (name, argument) := (Text.cutWhere? Text.isBlank t).getD (t, [])
  let argument := Text.trim argument
  if name = "define".toList then .define argument
  else if name = "undef".toList then .undefine argument
  else if name = "if".toList then .openIf argument
  else if name = "elif".toList then .elseIf argument
  else if name = "else".toList then .otherwise
  else if name = "endif".toList then .endIf
  else .other

end Directive

/-- The state of conditional compilation at one point of a source. -/
structure Conditions where
  /-- The symbols defined so far. -/
  symbols : Symbols := {}
  /-- The groups open so far. -/
  groups : ConditionalGroups := {}
  deriving DecidableEq, Repr

namespace Conditions

instance : Inhabited Conditions := ⟨{}⟩

/-- Whether the text at this point is left out. -/
def isSkipping (conditions : Conditions) : Bool :=
  conditions.groups.isSkipping

/-- Carries out a directive.  Symbols change only where the text is read; a group that opens where
it is skipped stays closed whatever its condition says. -/
def apply (conditions : Conditions) : Directive → Conditions
  | .define name =>
    if conditions.isSkipping then conditions
    else { conditions with symbols := conditions.symbols.define name }
  | .undefine name =>
    if conditions.isSkipping then conditions
    else { conditions with symbols := conditions.symbols.undefine name }
  | .openIf condition =>
    let value := !conditions.isSkipping && Condition.holds conditions.symbols condition
    { conditions with groups := conditions.groups.openIf value }
  | .elseIf condition =>
    { conditions with
      groups := conditions.groups.elseIf (Condition.holds conditions.symbols condition) }
  | .otherwise => { conditions with groups := conditions.groups.otherwise }
  | .endIf => { conditions with groups := conditions.groups.close }
  | .other => conditions

end Conditions

end DeclAtlas
