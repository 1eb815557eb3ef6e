import DeclAtlas.Error
import DeclAtlas.Settings.Format

/-!
# Settings on a disk

Settings are kept in a file.  Where there is no file, the settings are the defaults.
-/

namespace DeclAtlas.Settings

/-- Reads settings from a file. -/
def load (disk : Disk) (path : Path) : Except AtlasError Settings :=
  match disk.readText path with
  | .error .notFound => .ok {}
  | .error fault => .error (.storage .read path fault)
  | .ok t =>
    match read? t with
    | some settings => .ok settings
    | none => .error (.settings path)

/-- Makes the folders around a file. -/
def makeParent (disk : Disk) (path : Path) : Disk × Except AtlasError Unit :=
  match path.parent? with
  | none => (disk, .ok ())
  | some parent =>
    let (disk, result) := disk.makeFolders parent
    (disk, result.mapError (AtlasError.storage .create parent))

/-- Writes settings into a file, making the folders around it.  Gives the disk as it is
afterwards. -/
def save (settings : Settings) (disk : Disk) (path : Path) : Disk × Except AtlasError Unit :=
  match makeParent disk path with
  | (disk, .error error) => (disk, .error error)
  | (disk, .ok ()) =>
    match disk.writeText path settings.write with
    | .ok disk => (disk, .ok ())
    | .error fault => (disk, .error (.storage .write path fault))

/-- Saves settings if they are kept in a file.  A failure goes unnoticed. -/
def saveIn (settings : Settings) (disk : Disk) : Option Path → Disk
  | some path => (settings.save disk path).1
  | none => disk

/-- The file of the settings in the folder that holds a user's configuration. -/
def defaultPath (configuration : Path) : Path :=
  (configuration.join "sharpdoc").join "settings.toml"

end DeclAtlas.Settings
