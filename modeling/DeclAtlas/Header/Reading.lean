import DeclAtlas.Header.Parts

/-!
# Reading headers

A header declares an element of the kind its type keyword names.  Without such a keyword it
declares a variable, unless a block or an arrow follows: then it declares a function if its name
has a parameter list and a property otherwise, and the block is a body.
-/

namespace DeclAtlas.Header

/-- Whether a header is an import of names. -/
def isImport (t : Text) : Bool :=
  match Text.after? "using" t with
  | none => false
  | some rest => rest.head?.all Text.isBlank

/-- Whether a header only assigns a value. -/
def isAssignment (t : Text) : Bool :=
  t.startsWith "=" && !t.startsWith "=>"

/-- A name with a parameter list is that of a function. -/
def functionOrProperty (name : Text) : Kind :=
  if name.contains '(' then .function else .property

/-- The kind that the parts of a header give, whatever ends it. -/
def Parts.kind (parts : Parts) : Kind :=
  let announced :=
    match parts.type with
    | .named keyword => Kind.ofKeyword? keyword
    | _ => none
  announced.getD (if parts.hasArrow then functionOrProperty parts.nameAndBases else .field)

/-- The declaration that the parts of a header make in a place. -/
def Parts.declare (context : HeaderContext) (parts : Parts) : Header :=
  if parts.name.isEmpty then .nothing
  else
    let isField := parts.kind = .field
    let isOpening := context.boundary = .opening
    .declaration
      { name := parts.name
        kind := if isOpening ∧ isField then functionOrProperty parts.name else parts.kind
        visibility := parts.visibility.getD (Visibility.implied parts.kind context.parent)
        modifiers := parts.modifiers
        type := parts.type
        defaultValue := parts.defaultValue
        attributes := parts.attributes
        bases := parts.bases }
      (isOpening ∧ (isField ∨ parts.hasArrow))

/-- Reads a header in a place. -/
def read (context : HeaderContext) (span : Text) : Header :=
  let t := stripComments span
  if isImport t then .importing
  else if context.boundary = .opening ∧ isAssignment t ∧ context.previous = some .property then
    .initializer
  else (parts t).declare context

end DeclAtlas.Header
