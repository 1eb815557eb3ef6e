import DeclAtlas.Text.Quoted

/-!
# Paths

A path is kept as the text that was given for it and read as a sequence of components.  Repeated
separators, a separator at the end and `.` inside make no component, so different texts may name
the same path; a leading `.` is a component of its own.
-/

namespace DeclAtlas

/-- A path of a file or folder. -/
structure Path where
  /-- The path as it is written. -/
  text : Text
  deriving DecidableEq, Repr

instance : Coe String Path := ⟨fun s => { text := s.toList }⟩

instance : Inhabited Path := ⟨{ text := [] }⟩

namespace Path

/-- One part of a path. -/
inductive Component where
  /-- The separator that an absolute path begins with. -/
  | root
  /-- The leading `.` of a relative path. -/
  | here
  /-- A step up, written `..`. -/
  | up
  /-- The name of a file or folder. -/
  | name (word : Text)
  deriving DecidableEq, Repr

/-- A component as it is written. -/
def Component.text : Component → Text
  | .root => "/"
  | .here => "."
  | .up => ".."
  | .name word => word

/-- Whether the path begins with a separator. -/
def isAbsolute (path : Path) : Bool :=
  path.text.startsWith "/"

/-- The texts between the separators. -/
def pieces (path : Path) : List Text :=
  Text.splitAtChar '/' path.text

/-- The component that a piece behind a separator makes, if it makes one. -/
def Component.ofPiece? (piece : Text) : Option Component :=
  if piece = [] ∨ piece = ".".toList then none
  else if piece = "..".toList then some .up
  else some (.name piece)

/-- The components of a path. -/
def components (path : Path) : List Component :=
  match path.pieces with
  | [] => []
  | first :: others =>
    let front :=
      if path.isAbsolute then [.root]
      else if first = ".".toList then [.here]
      else (Component.ofPiece? first).toList
    front ++ others.filterMap Component.ofPiece?

/-- Whether two paths have the same components. -/
def same (a b : Path) : Bool :=
  a.components == b.components

/-- The path behind another one.  An absolute path stands for itself. -/
def join (base : Path) (path : Path) : Path :=
  if path.isAbsolute then path
  else if base.text.isEmpty || base.text.endsWith "/" then { text := base.text ++ path.text }
  else { text := base.text ++ '/' :: path.text }

/-! ## Parents -/

/-- Drops the pieces at the end that make no component; the pieces come last first. -/
def dropSilent (reversed : List Text) : List Text :=
  reversed.dropWhile fun piece => (Component.ofPiece? piece).isNone

/-- The path of the text that pieces behind the first one make; the pieces come last first. -/
def ofReversed (first : Text) (reversed : List Text) : Path :=
  { text := Text.join "/" (first :: reversed.reverse) }

/-- The path without its last component.  The empty path and the root have no parent. -/
def parent? (path : Path) : Option Path :=
  match path.pieces with
  | [] => none
  | first :: others =>
    match dropSilent others.reverse with
    | _ :: outer =>
      match dropSilent outer with
      | [] => some { text := if path.isAbsolute then "/" else first }
      | reversed => some (ofReversed first reversed)
    | [] => if first.isEmpty then none else some { text := [] }

/-- The path and its parents, as many as `count`. -/
def ancestorsTo (path : Path) : (count : Nat) → List Path
  | 0 => []
  | count + 1 =>
    path :: (match path.parent? with
      | none => []
      | some parent => parent.ancestorsTo count)

/-- The path and all its parents, the nearest first.  A path has fewer parents than characters. -/
def ancestors (path : Path) : List Path :=
  path.ancestorsTo (path.text.length + 2)

/-! ## Names -/

/-- The name that a path ends with. -/
def fileName? (path : Path) : Option Text :=
  match path.components.getLast? with
  | some (.name word) => some word
  | _ => none

/-- What follows the last dot of the name; a dot that begins the name does not count. -/
def extension? (path : Path) : Option Text := do
  let name ← path.fileName?
  let (stem, extension) ← Text.cutAtLast? '.' name
  if stem.isEmpty then none else some extension

/-! ## Relative paths -/

/-- The components behind those of `base`, if the path begins with them. -/
def behind? (path base : Path) : Option (List Component) :=
  if base.components.isPrefixOf path.components then
    some (path.components.drop base.components.length)
  else none

/-- The path as seen from the folder `base`: the components behind it, with separators between.  A
path that is not below `base` is shown whole. -/
def relativeTo (path base : Path) : Text :=
  Text.join "/" (((path.behind? base).getD path.components).map Component.text)

/-- The path in quotes. -/
def quoted (path : Path) : Text :=
  Text.quote path.text

end Path

end DeclAtlas
