import DeclAtlas.Element.Kind
import DeclAtlas.Element.DisplayName

/-!
# Elements

An element is one declaration of a source with everything its header says about it and the
documentation that stands in front of it.
-/

namespace DeclAtlas

/-- The type in front of a declared name. -/
inductive TypeForm where
  /-- The header names no type. -/
  | absent
  /-- A name with a parameter list and no type, as constructors have. -/
  | constructor
  /-- The type as it is written. -/
  | named (name : Text)
  deriving DecidableEq, Repr

namespace TypeForm

/-- The word or words for the type in outlines and tables. -/
def text : TypeForm → Text
  | .absent => ""
  | .constructor => "Constructor"
  | .named name => name

/-- Whether the header names no type. -/
def isAbsent : TypeForm → Bool
  | .absent => true
  | _ => false

end TypeForm

/-- How the label of an element is set off. -/
inductive Emphasis where
  | regular
  | italic
  | underline
  deriving DecidableEq, Repr

/-- One declaration. -/
structure Element where
  /-- The declared name, with the parameter list of a function. -/
  name : Text
  /-- What is declared. -/
  kind : Kind
  /-- The stated or implied visibility. -/
  visibility : Visibility
  /-- The modifier keywords in the order in which they are written. -/
  modifiers : List Text := []
  /-- The type in front of the name. -/
  type : TypeForm := .absent
  /-- What follows the equals sign. -/
  defaultValue : Text := []
  /-- The interiors of the attribute groups in front of the declaration, with commas between. -/
  attributes : Text := []
  /-- What follows the colon: base types and constraints. -/
  bases : Text := []
  /-- The documentation lines in front of the declaration, each with a line break. -/
  summary : Text := []
  /-- Whether the element is part of the exported documentation. -/
  exportable : Bool := false
  deriving DecidableEq, Repr

namespace Element

/-- Whether the declaration has the modifier. -/
def hasModifier (element : Element) (modifier : Text) : Bool :=
  element.modifiers.contains modifier

/-- The modifiers with spaces between them. -/
def modifiersText (element : Element) : Text :=
  Text.join " " element.modifiers

/-- Abstract elements are set in italics and static ones underlined. -/
def emphasis (element : Element) : Emphasis :=
  if element.hasModifier "abstract" then .italic
  else if element.hasModifier "static" then .underline
  else .regular

/-- The name without parameter names and default values. -/
def displayName (element : Element) : Text :=
  DisplayName.ofName element.name

end Element

end DeclAtlas
