import DeclAtlas.Source.Fault
import DeclAtlas.Storage.Disk

/-!
# Errors

Everything that can go wrong between a folder of sources and a written site, each with its cause.
-/

namespace DeclAtlas

/-- What was being done to a file or folder. -/
inductive StorageAction where
  | create
  | read
  | write
  deriving DecidableEq, Repr

/-- The word for an action. -/
def StorageAction.label : StorageAction → Text
  | .create => "create"
  | .read => "read"
  | .write => "write"

/-- Why something could not be done. -/
inductive AtlasError where
  /-- A file or folder could not be read or written. -/
  | storage (action : StorageAction) (path : Path) (fault : StorageFault)
  /-- A source has a fault. -/
  | source (path : Path) (fault : Fault)
  /-- There is no folder of sources. -/
  | missingFolder (path : Path)
  /-- A folder could not be walked, because of a fault at a path in it. -/
  | walk (folder path : Path) (fault : StorageFault)
  /-- A settings file is malformed. -/
  | settings (path : Path)
  /-- The folder for the pages holds something already. -/
  | outputNotEmpty (path : Path)
  deriving DecidableEq, Repr

namespace AtlasError

/-- The message that reports a fault at a path during a walk. -/
def walkMessage (path : Path) (fault : StorageFault) : Text :=
  "IO error for operation on " ++ path.text ++ ": " ++ fault.message

/-- The message that reports an error. -/
def message : AtlasError → Text
  | .storage action path fault =>
    "I/O failure on " ++ path.quoted ++ ": " ++ action.label ++ ": " ++ fault.message
  | .source path fault => path.quoted ++ ": " ++ fault.message
  | .missingFolder path => "Source directory " ++ path.quoted ++ " does not exist"
  | .walk folder path fault =>
    "Failed to walk " ++ folder.quoted ++ ": " ++ walkMessage path fault
  | .settings path => "Invalid settings file " ++ path.quoted
  | .outputNotEmpty path => "Output directory " ++ path.quoted ++ " is not empty"

/-- The messages of what caused an error, the nearest cause first. -/
def causes : AtlasError → List Text
  | .storage _ _ fault => [fault.message]
  | .source _ fault => [fault.message]
  | .walk _ path fault => [walkMessage path fault, fault.message]
  | _ => []

end AtlasError

end DeclAtlas
