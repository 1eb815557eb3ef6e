import DeclAtlas.Element.Basic

/-!
# Headers

A header is the text between two boundary characters of a source.  Reading one gives at most one
declaration; what it declares depends on the boundary that ends it and on the place in the tree.
-/

namespace DeclAtlas

/-- The character that ends a header. -/
inductive Boundary where
  | comma
  | semicolon
  | opening
  | closing
  deriving DecidableEq, Repr

/-- The boundary that a character is. -/
def Boundary.ofChar? : Char → Option Boundary
  | ',' => some .comma
  | ';' => some .semicolon
  | '\x7b' => some .opening
  | '\x7d' => some .closing
  | _ => none

/-- What reading a header needs to know about its place. -/
structure HeaderContext where
  /-- The character that ends the header. -/
  boundary : Boundary
  /-- The kind of the element that receives the declaration, if it is not the root. -/
  parent : Option Kind := none
  /-- The kind of the element declared before in the same place. -/
  previous : Option Kind := none
  deriving DecidableEq, Repr

/-- What a header says. -/
inductive Header where
  /-- An import of names, which declares nothing. -/
  | importing
  /-- The value of the property before it, given as a block. -/
  | initializer
  /-- Nothing that could be declared. -/
  | nothing
  /-- A declaration; `opensBody` says that the block after it is a body, which holds no
  declarations. -/
  | declaration (element : Element) (opensBody : Bool)
  deriving DecidableEq, Repr

end DeclAtlas
