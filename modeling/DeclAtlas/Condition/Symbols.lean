import DeclAtlas.Text.Basic

/-!
# Defined symbols

Conditional compilation reads a set of symbols: a condition may test whether a symbol is defined,
and directives define and undefine symbols as a source is read.  Names are trimmed when they enter
or leave the set and compared exactly when they are looked up.
-/

namespace DeclAtlas

/-- The symbols defined at one point of a source. -/
structure Symbols where
  /-- The names, each once, in the order in which they were defined. -/
  names : List Text := []
  deriving DecidableEq, Repr

namespace Symbols

/-- No symbol is defined. -/
def empty : Symbols := {}

instance : Inhabited Symbols := ⟨empty⟩

/-- Whether exactly this name is defined. -/
def contains (symbols : Symbols) (name : Text) : Bool :=
  decide (name ∈ symbols.names)

/-- Defines the trimmed name; an empty name defines nothing. -/
def define (symbols : Symbols) (name : Text) : Symbols :=
  let name := Text.trim name
  if name.isEmpty || symbols.contains name then symbols
  else { names := symbols.names ++ [name] }

/-- Removes the trimmed name, if it is defined. -/
def undefine (symbols : Symbols) (name : Text) : Symbols :=
  { names := symbols.names.filter (· != Text.trim name) }

/-- Reads a list of names with semicolons between them. -/
def ofList (t : Text) : Symbols :=
  (Text.splitAtChar ';' t).foldl define empty

/-- The number of defined symbols. -/
def size (symbols : Symbols) : Nat :=
  symbols.names.length

/-- Whether no symbol is defined. -/
def isEmpty (symbols : Symbols) : Bool :=
  symbols.names.isEmpty

/-- Whether two sets have the same members, in whatever order these were defined. -/
def sameMembers (a b : Symbols) : Bool :=
  a.names.all b.contains && b.names.all a.contains

end Symbols

end DeclAtlas
