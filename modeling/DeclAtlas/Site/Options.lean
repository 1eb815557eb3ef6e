import DeclAtlas.Element.Basic
import DeclAtlas.Settings.Basic

/-!
# Export options

Which elements are documented and how their pages are written.
-/

namespace DeclAtlas

/-- The choices for one export. -/
structure ExportOptions where
  /-- Whether public elements are documented. -/
  includePublic : Bool
  /-- Whether internal elements are documented. -/
  includeInternal : Bool
  /-- Whether protected elements are documented. -/
  includeProtected : Bool
  /-- Whether private elements are documented. -/
  includePrivate : Bool
  /-- Whether members of enums are documented. -/
  expandEnums : Bool
  /-- Whether members of structs are documented. -/
  expandStructs : Bool
  /-- Whether pages show attributes. -/
  showAttributes : Bool
  /-- The extension of pages, without a dot in front. -/
  extension : Text
  /-- Whether redirecting pages are written. -/
  writeRedirects : Bool
  deriving DecidableEq, Repr

/-- An extension without the dots in front of it. -/
def bareExtension (extension : Text) : Text :=
  extension.dropWhile (· == '.')

namespace ExportOptions

/-- The options that settings ask for. -/
def ofSettings (settings : Settings) : ExportOptions where
  includePublic := settings.exportPublic
  includeInternal := settings.exportInternal
  includeProtected := settings.exportProtected
  includePrivate := settings.exportPrivate
  expandEnums := settings.expandEnums
  expandStructs := settings.expandStructs
  showAttributes := settings.exportAttributes
  extension := bareExtension settings.fileExtension
  writeRedirects := settings.phpFillers

/-- Whether elements of a visibility are documented.  Elements without one always are. -/
def exports (options : ExportOptions) : Visibility → Bool
  | .publicAccess => options.includePublic
  | .internalAccess => options.includeInternal
  | .protectedAccess => options.includeProtected
  | .privateAccess => options.includePrivate
  | .unspecified => true

/-- Whether the members of elements of a kind are documented. -/
def expands (options : ExportOptions) : Kind → Bool
  | .enumType => options.expandEnums
  | .structType => options.expandStructs
  | _ => true

end ExportOptions

end DeclAtlas
