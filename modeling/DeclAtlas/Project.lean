import DeclAtlas.Error
import DeclAtlas.Scanner.Run
import DeclAtlas.Site.Options

/-!
# Projects

A project is a folder of sources read into one tree.  The sources are read one after the other in
the order of a walk, each with the same defined symbols at its start.  A source that cannot be read
or has a fault is noted; what it declared up to its end stays in the tree.
-/

namespace DeclAtlas

/-- A folder of sources and the tree that was read from it. -/
structure Project where
  /-- The folder as it was given. -/
  folder : Path
  /-- The extension of the sources. -/
  sourceExtension : Text
  /-- The defined symbols with semicolons between them. -/
  defines : Text
  /-- The declarations of all sources. -/
  tree : Tree
  /-- The sources that were read, in order. -/
  files : List Path := []
  /-- What went wrong with single sources, in order. -/
  errors : List AtlasError := []
  deriving DecidableEq, Repr

namespace Disk

/-- The files with an extension at and below a path, in the order of a walk. -/
def sourceFiles (disk : Disk) (folder : Path) (extension : Text) :
    Except AtlasError (List Path) :=
  let walk := disk.walk folder
  match walk.fault with
  | some (path, fault) => .error (.walk folder path fault)
  | none =>
    let sources := walk.visits.filter fun visit =>
      !visit.isFolder && visit.path.extension?.any (Text.sameIgnoringCase extension)
    .ok (sources.map Visit.path)

/-- The label of the root for a folder: its name on the disk. -/
def rootLabel (disk : Disk) (folder : Path) : Text :=
  let path := disk.canonicalOr folder
  path.fileName?.getD path.text

end Disk

namespace Project

/-- Reads one source into the tree of a project. -/
def addFile (disk : Disk) (project : Project) (path : Path) : Project :=
  match disk.readText path with
  | .error fault => { project with errors := project.errors ++ [.storage .read path fault] }
  | .ok t =>
    let reading :=
      project.tree.read Tree.root (Symbols.ofList project.defines) (Text.withoutMark t)
    let faults := (reading.fault.map (AtlasError.source path)).toList
    { project with
      tree := reading.tree
      files := project.files ++ [path]
      errors := project.errors ++ faults }

/-- Reads all sources of a project. -/
def addFiles (disk : Disk) (project : Project) : Project × Except AtlasError Unit :=
  match disk.sourceFiles project.folder project.sourceExtension with
  | .error error => (project, .error error)
  | .ok paths => (paths.foldl (addFile disk) project, .ok ())

/-- Reads a folder of sources. -/
def load (disk : Disk) (folder : Path) (extension defines : Text) : Except AtlasError Project :=
  if disk.hasFolder folder then
    let project : Project :=
      { folder
        sourceExtension := bareExtension extension
        defines
        tree := Tree.ofLabel (disk.rootLabel folder) }
    match addFiles disk project with
    | (project, .ok ()) => .ok project
    | (_, .error error) => .error error
  else .error (.missingFolder folder)

/-- Reads the folder of a project again with other symbols. -/
def reload (disk : Disk) (project : Project) (defines : Text) :
    Project × Except AtlasError Unit :=
  addFiles disk
    { project with
      defines
      tree := Tree.ofLabel (disk.rootLabel project.folder)
      files := []
      errors := [] }

/-- The line that says how a project was read. -/
def statusLine (project : Project) : Text :=
  "Code loaded with: " ++ project.defines

end Project

end DeclAtlas
