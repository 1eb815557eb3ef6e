import Mathlib
import DeclAtlas.Proofs.Storage.Disk
import DeclAtlas.Proofs.Toml.Document
import DeclAtlas.Settings.Storage

/-!
# Settings are kept

Settings are written as a document of keys and values, from which the same settings are read.

* `entries`: the document that settings are written as.
* `forall₂_gives`: each line of the written settings gives its entry.
* **Theorem** (`load_save`): settings that were saved are loaded again.
-/

namespace DeclAtlas.Settings

open Toml

/-- The document that settings are written as. -/
def entries (settings : Settings) : Entries :=
  [("expand_enums".toList, .boolean settings.expandEnums),
    ("expand_structs".toList, .boolean settings.expandStructs),
    ("export_attributes".toList, .boolean settings.exportAttributes),
    ("file_extension".toList, .string settings.fileExtension),
    ("source_extension".toList, .string settings.sourceExtension),
    ("define_constants".toList, .string settings.defineConstants),
    ("php_fillers".toList, .boolean settings.phpFillers),
    ("export_public".toList, .boolean settings.exportPublic),
    ("export_internal".toList, .boolean settings.exportInternal),
    ("export_protected".toList, .boolean settings.exportProtected),
    ("export_private".toList, .boolean settings.exportPrivate),
    ("recents".toList, .array (settings.recents.map fun path => .string path.text))]

/-! ## Writing -/

/-- A written truth value is read as the value. -/
theorem denotes_writeBool (depth : Nat) (b : Bool) : Denotes depth (writeBool b) (.boolean b) := by
  cases b with
  | false => exact denotes_word depth (List.cons_ne_nil _ _) (List.all_eq_true.1 rfl) rfl
  | true => exact denotes_word depth (List.cons_ne_nil _ _) (List.all_eq_true.1 rfl) rfl

/-- A written list of texts is read as an array of strings. -/
theorem denotes_writeList (depth : Nat) (items : List Text) :
    Denotes (depth + 1) (writeList items) (.array (items.map .string)) := by
  rcases items with _ | ⟨first, _ | ⟨second, others⟩⟩
  · exact denotes_emptyArray depth
  · exact (denotes_writeString depth first).singletonArray
  · have hitems : List.Forall₂ (Denotes depth) ((first :: second :: others).map writeString)
        ((first :: second :: others).map .string) := by
      rw [List.forall₂_map_left_iff, List.forall₂_map_right_iff, List.forall₂_same]
      exact fun item _ => denotes_writeString depth item
    have harray := denotes_array hitems
    rw [List.flatMap_map] at harray
    exact harray

/-- Every field of the settings is written so that it gives its entry. -/
theorem forall₂_gives (settings : Settings) :
    List.Forall₂ Gives settings.fields settings.entries := by
  have hkey (c : Char) (key : Text) (h : (c :: key).all isKeyChar = true) : IsKey (c :: key) :=
    ⟨List.cons_ne_nil c key, List.all_eq_true.1 h⟩
  have hbool {key : Text} (hkey : IsKey key) (b : Bool) :
      Gives (key, writeBool b) (key, .boolean b) := ⟨rfl, hkey, denotes_writeBool _ b⟩
  have htext {key : Text} (hkey : IsKey key) (t : Text) :
      Gives (key, writeString t) (key, .string t) := ⟨rfl, hkey, denotes_writeString _ t⟩
  have hlist {key : Text} (hkey : IsKey key) (paths : List Path) :
      Gives (key, writeList (paths.map Path.text))
        (key, .array (paths.map fun path => .string path.text)) := by
    refine ⟨rfl, hkey, ?_⟩
    have hdenotes := denotes_writeList (maxDepth - 1) (paths.map Path.text)
    rw [List.map_map] at hdenotes
    exact hdenotes
  unfold fields entries
  refine .cons (hbool (hkey _ _ rfl) _) <| .cons (hbool (hkey _ _ rfl) _) <|
    .cons (hbool (hkey _ _ rfl) _) <| .cons (htext (hkey _ _ rfl) _) <|
    .cons (htext (hkey _ _ rfl) _) <| .cons (htext (hkey _ _ rfl) _) <|
    .cons (hbool (hkey _ _ rfl) _) <| .cons (hbool (hkey _ _ rfl) _) <|
    .cons (hbool (hkey _ _ rfl) _) <| .cons (hbool (hkey _ _ rfl) _) <|
    .cons (hbool (hkey _ _ rfl) _) <| .cons (hlist (hkey _ _ rfl) _) .nil

/-- No key is written twice. -/
theorem nodup_keys (settings : Settings) : (settings.entries.map Prod.fst).Nodup := by
  have : settings.entries.map Prod.fst = ({} : Settings).entries.map Prod.fst := rfl
  rw [this]
  decide

/-! ## Reading -/

/-- Paths are read back from an array of strings. -/
theorem mapM_path? (paths : List Path) :
    (paths.map fun path => Toml.string path.text).mapM path? = some paths := by
  induction paths with
  | nil => rfl
  | cons path paths ih =>
      rw [List.map_cons, List.mapM_cons, ih]
      rfl

/-- Settings are read back from their entries. -/
theorem ofEntries?_entries (settings : Settings) : ofEntries? settings.entries = some settings := by
  have hrecents : readPaths? settings.entries "recents" ({} : Settings).recents =
      some settings.recents := mapM_path? settings.recents
  -- The other fields are found by computation.
  change (readPaths? settings.entries "recents" ({} : Settings).recents).bind
    (fun recents => some { settings with recents }) = some settings
  rw [hrecents]
  rfl

/-- Settings are written line by line, one for each field. -/
theorem write_eq (settings : Settings) : settings.write = settings.fields.flatMap pairLine := by
  rw [write]
  exact congrArg (List.flatMap · settings.fields) (funext fun _ => rfl)

/-- Settings are read back from what is written. -/
theorem read?_write_eq (settings : Settings) : read? settings.write = some settings := by
  have hread := read?_pairLines settings.forall₂_gives settings.nodup_keys
  rw [read?, write_eq, hread, Option.bind_some, ofEntries?_entries]

/-! ## Saving and loading -/

/-- A file that holds settings is loaded as these settings. -/
theorem load_of_readText {disk : Disk} {path : Path} {settings : Settings}
    (h : disk.readText path = .ok settings.write) : load disk path = .ok settings := by
  rw [load, h]
  dsimp only
  rw [read?_write_eq]

/-- Saved settings are written behind the folders that were made for them. -/
theorem writeText_of_save {settings : Settings} {disk after : Disk} {path : Path}
    (h : settings.save disk path = (after, .ok ())) :
    (makeParent disk path).1.writeText path settings.write = .ok after := by
  unfold save at h
  split at h
  case h_1 => cases h
  case h_2 made hmade =>
    rw [hmade]
    split at h
    case h_1 written hwritten =>
      cases h
      exact hwritten
    case h_2 => cases h

/-- **Theorem.** From the text of settings the same settings are read.  Saving leaves this text in
the file, whatever was there before, and the settings are loaded from there again. -/
theorem load_save (settings : Settings) :
    read? settings.write = some settings ∧
      ∀ (disk after : Disk) (path : Path), settings.save disk path = (after, .ok ()) →
        after.readText path = .ok settings.write ∧ load after path = .ok settings := by
  refine ⟨read?_write_eq settings, ?_⟩
  intro disk after path hsave
  have htext : after.readText path = .ok settings.write :=
    Disk.readText_of_writeText (writeText_of_save hsave)
  exact ⟨htext, load_of_readText htext⟩

/-- Settings with quotes of both kinds, line breaks and control characters. -/
def quotingSettings : Settings :=
  { fileExtension := "'", sourceExtension := "\"\\'", defineConstants := "\n'''\"\"\"\t\x7f\r",
    recents := ["C:\\a", "b'''c\n"] }

/-- Saving them in a folder that is to be made, on a disk that holds nothing. -/
theorem load_save_quotingSettings :
    quotingSettings.save {} "home/settings.toml" =
        ((quotingSettings.save {} "home/settings.toml").1, .ok ()) ∧
      load (quotingSettings.save {} "home/settings.toml").1 "home/settings.toml" =
        .ok quotingSettings := by
  have hsave : quotingSettings.save {} "home/settings.toml" =
      ((quotingSettings.save {} "home/settings.toml").1, .ok ()) := by
    apply Prod.ext
    · rfl
    · rfl
  exact ⟨hsave, ((load_save quotingSettings).2 {} _ _ hsave).2⟩

end DeclAtlas.Settings
