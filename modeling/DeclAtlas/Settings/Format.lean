import DeclAtlas.Settings.Basic
import DeclAtlas.Toml.Reader

/-!
# Settings as text

Settings are written as a TOML document with one key for each field.  Reading accepts any document
in which these keys have values of the right type; keys that are missing keep their defaults and
other keys are passed over.
-/

namespace DeclAtlas.Settings

/-! ## Writing -/

/-- A truth value as it is written. -/
def writeBool (b : Bool) : Text :=
  if b then "true" else "false"

/-- An item of a list on a line of its own. -/
def writeItem (item : Text) : Text :=
  "    " ++ Toml.writeString item ++ ",\n"

/-- A list of texts as it is written: on one line up to one item, and with one item on a line
otherwise. -/
def writeList : List Text → Text
  | [] => "[]"
  | [item] => "[" ++ Toml.writeString item ++ "]"
  | items => "[\n" ++ items.flatMap writeItem ++ "]"

/-- The fields in order: key and value as they are written. -/
def fields (settings : Settings) : List (Text × Text) :=
  [("expand_enums".toList, writeBool settings.expandEnums),
    ("expand_structs".toList, writeBool settings.expandStructs),
    ("export_attributes".toList, writeBool settings.exportAttributes),
    ("file_extension".toList, Toml.writeString settings.fileExtension),
    ("source_extension".toList, Toml.writeString settings.sourceExtension),
    ("define_constants".toList, Toml.writeString settings.defineConstants),
    ("php_fillers".toList, writeBool settings.phpFillers),
    ("export_public".toList, writeBool settings.exportPublic),
    ("export_internal".toList, writeBool settings.exportInternal),
    ("export_protected".toList, writeBool settings.exportProtected),
    ("export_private".toList, writeBool settings.exportPrivate),
    ("recents".toList, writeList (settings.recents.map Path.text))]

/-- Settings as text. -/
def write (settings : Settings) : Text :=
  settings.fields.flatMap fun (key, value) => key ++ " = " ++ value ++ "\n"

/-! ## Reading -/

/-- The truth value of a key, or the default if the key is missing. -/
def readBool? (entries : Toml.Entries) (key : Text) (default : Bool) : Option Bool :=
  match entries.lookup key with
  | none => some default
  | some (.boolean b) => some b
  | some _ => none

/-- The text of a key, or the default if the key is missing. -/
def readText? (entries : Toml.Entries) (key : Text) (default : Text) : Option Text :=
  match entries.lookup key with
  | none => some default
  | some (.string t) => some t
  | some _ => none

/-- The path that a value is. -/
def path? : Toml → Option Path
  | .string t => some { text := t }
  | _ => none

/-- The list of paths of a key, or the default if the key is missing. -/
def readPaths? (entries : Toml.Entries) (key : Text) (default : List Path) :
    Option (List Path) :=
  match entries.lookup key with
  | none => some default
  | some (.array items) => items.mapM path?
  | some _ => none

/-- The settings that a document gives. -/
def ofEntries? (entries : Toml.Entries) : Option Settings := do
  let initial : Settings := {}
  return {
    expandEnums := ← readBool? entries "expand_enums" initial.expandEnums
    expandStructs := ← readBool? entries "expand_structs" initial.expandStructs
    exportAttributes := ← readBool? entries "export_attributes" initial.exportAttributes
    fileExtension := ← readText? entries "file_extension" initial.fileExtension
    sourceExtension := ← readText? entries "source_extension" initial.sourceExtension
    defineConstants := ← readText? entries "define_constants" initial.defineConstants
    phpFillers := ← readBool? entries "php_fillers" initial.phpFillers
    exportPublic := ← readBool? entries "export_public" initial.exportPublic
    exportInternal := ← readBool? entries "export_internal" initial.exportInternal
    exportProtected := ← readBool? entries "export_protected" initial.exportProtected
    exportPrivate := ← readBool? entries "export_private" initial.exportPrivate
    recents := ← readPaths? entries "recents" initial.recents }

/-- The settings that a text gives. -/
def read? (t : Text) : Option Settings :=
  (Toml.read? t).bind ofEntries?

end DeclAtlas.Settings
