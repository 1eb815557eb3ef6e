import DeclAtlas.Text.Basic

/-!
# Kinds and visibilities

What a declaration declares, and who may use it.
-/

namespace DeclAtlas

/-- What a declaration declares.  The first five kinds are containers: they hold further
declarations and have a page of their own. -/
inductive Kind where
  | nameSpace
  | classType
  | interfaceType
  | structType
  | enumType
  | function
  | property
  /-- A field, a member of an enum or any other variable. -/
  | field
  deriving DecidableEq, Repr

namespace Kind

/-- Whether elements of this kind hold members and have a page of their own. -/
def isContainer : Kind → Bool
  | .nameSpace | .classType | .interfaceType | .structType | .enumType => true
  | .function | .property | .field => false

/-- The word for the kind in outlines and tables. -/
def label : Kind → Text
  | .nameSpace => "namespace"
  | .classType => "class"
  | .interfaceType => "interface"
  | .structType => "struct"
  | .enumType => "enum"
  | .function => "function"
  | .property => "property"
  | .field => "variable"

/-- The container kind that a type keyword announces. -/
def ofKeyword? (word : Text) : Option Kind :=
  [Kind.classType, .interfaceType, .nameSpace, .enumType, .structType].find? fun kind =>
    kind.label == word

end Kind

/-- Who may use an element. -/
inductive Visibility where
  | publicAccess
  | internalAccess
  | protectedAccess
  | privateAccess
  /-- No keyword is given and none is implied, as for namespaces. -/
  | unspecified
  deriving DecidableEq, Repr

namespace Visibility

/-- The word for the visibility in outlines and tables. -/
def label : Visibility → Text
  | .publicAccess => "public"
  | .internalAccess => "internal"
  | .protectedAccess => "protected"
  | .privateAccess => "private"
  | .unspecified => "default"

/-- The visibility that a keyword states. -/
def ofKeyword? (word : Text) : Option Visibility :=
  [Visibility.publicAccess, .internalAccess, .protectedAccess, .privateAccess].find? fun access =>
    access.label == word

/-- The visibility of an element without a visibility keyword, from its kind and the kind of the
element around it. -/
def implied (kind : Kind) (parent : Option Kind) : Visibility :=
  if kind = .nameSpace then .unspecified
  else if parent = some .enumType ∨ parent = some .interfaceType then .publicAccess
  else if kind = .classType ∨ kind = .interfaceType ∨ kind = .structType then .internalAccess
  else .privateAccess

end Visibility

end DeclAtlas
