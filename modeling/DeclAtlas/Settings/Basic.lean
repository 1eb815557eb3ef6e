import DeclAtlas.Storage.Path

/-!
# Settings

What a user prefers: what to document and how, the symbols to define, and the folders loaded
recently.
-/

namespace DeclAtlas

/-- The preferences of a user. -/
structure Settings where
  /-- Whether members of enums are documented. -/
  expandEnums : Bool := false
  /-- Whether members of structs are documented. -/
  expandStructs : Bool := false
  /-- Whether pages show attributes. -/
  exportAttributes : Bool := false
  /-- The extension of pages. -/
  fileExtension : Text := "html"
  /-- The extension of sources. -/
  sourceExtension : Text := "cs"
  /-- The defined symbols with semicolons between them. -/
  defineConstants : Text := []
  /-- Whether redirecting pages are written. -/
  phpFillers : Bool := false
  /-- Whether public elements are documented. -/
  exportPublic : Bool := true
  /-- Whether internal elements are documented. -/
  exportInternal : Bool := false
  /-- Whether protected elements are documented. -/
  exportProtected : Bool := false
  /-- Whether private elements are documented. -/
  exportPrivate : Bool := false
  /-- The folders loaded recently, the last one first. -/
  recents : List Path := []
  deriving DecidableEq, Repr

namespace Settings

instance : Inhabited Settings := ⟨{}⟩

/-- How many recent folders are kept. -/
def maxRecents : Nat := 10

/-- Puts a folder in front of the recent ones, from which it is removed wherever it was. -/
def addRecent (settings : Settings) (folder : Path) : Settings :=
  let others := settings.recents.filter fun path => !path.same folder
  { settings with recents := (folder :: others).take maxRecents }

end Settings

end DeclAtlas
