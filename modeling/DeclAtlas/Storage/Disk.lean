import DeclAtlas.Storage.Entry

/-!
# Disks

A disk is a value: a folder that holds files and folders, all in the order of their names, and the
place in it from which relative paths start.  Reading and writing follow the rules of an ordinary
file system: every step of a path has to be a folder that exists, and each way to fail has a cause
of its own.

Actions on a disk may fail after they have changed it; what has been changed stays changed.
-/

namespace DeclAtlas

/-- Why reading or writing failed. -/
inductive StorageFault where
  | notFound
  | alreadyExists
  | notFolder
  | isFolder
  | nameTooLong
  /-- The bytes of the file are not a text. -/
  | notText
  /-- The path holds the character that ends paths. -/
  | brokenPath
  deriving DecidableEq, Repr

/-- The words that report why reading or writing failed. -/
def StorageFault.message : StorageFault → Text
  | .notFound => "No such file or directory (os error 2)"
  | .alreadyExists => "File exists (os error 17)"
  | .notFolder => "Not a directory (os error 20)"
  | .isFolder => "Is a directory (os error 21)"
  | .nameTooLong => "File name too long (os error 36)"
  | .notText => "stream did not contain valid UTF-8"
  | .brokenPath => "file name contained an unexpected NUL byte"

/-- A file system and the folder from which relative paths start. -/
structure Disk where
  /-- The folder that holds everything. -/
  root : Entry := .folder []
  /-- The place of the folder from which relative paths start. -/
  home : Place := []
  /-- The items of all folders stand in the order of their names. -/
  ordered : root.Ordered := by simp
  deriving Repr

namespace Disk

/-! ## Finding entries -/

/-- One step along a path. -/
inductive Step where
  | stay
  | up
  | enter (name : Text)
  deriving DecidableEq, Repr

/-- The step that a piece between separators asks for. -/
def Step.ofPiece (piece : Text) : Step :=
  if piece = [] ∨ piece = ".".toList then .stay
  else if piece = "..".toList then .up
  else .enter piece

/-- The longest name in bytes. -/
def maxName : Nat := 255

/-- The length in bytes from which a path is too long. -/
def maxPath : Nat := 4096

/-- Why a path cannot be used at all, if it cannot. -/
def pathFault? (path : Path) : Option StorageFault :=
  if path.text.contains '\x00' then some .brokenPath
  else if path.text.isEmpty then some .notFound
  else if maxPath ≤ Text.byteSize path.text then some .nameTooLong
  else none

/-- The place from which a path starts. -/
def startOf (disk : Disk) (path : Path) : Place :=
  if path.isAbsolute then [] else disk.home

/-- Takes one step from a place, which has to be a folder. -/
def walkStep (disk : Disk) (place : Place) (step : Step) : Except StorageFault Place :=
  match disk.root.at? place with
  | some (.folder items) =>
    match step with
    | .stay => .ok place
    | .up => .ok place.dropLast
    | .enter name =>
      if maxName < Text.byteSize name then .error .nameTooLong
      else if (items.lookup name).isSome then .ok (place ++ [name])
      else .error .notFound
  | some (.file _) => .error .notFolder
  | none => .error .notFound

/-- The place that steps lead to. -/
def walkFrom (disk : Disk) (place : Place) (steps : List Step) : Except StorageFault Place :=
  steps.foldlM disk.walkStep place

/-- The place that the pieces of a path lead to. -/
def follow (disk : Disk) (path : Path) : Except StorageFault Place :=
  disk.walkFrom (disk.startOf path) (path.pieces.map Step.ofPiece)

/-- The place of the entry that a path names. -/
def resolve (disk : Disk) (path : Path) : Except StorageFault Place :=
  match pathFault? path with
  | some fault => .error fault
  | none => disk.follow path

/-- The entry that a path names. -/
def entry (disk : Disk) (path : Path) : Except StorageFault Entry := do
  let place ← disk.resolve path
  match disk.root.at? place with
  | some entry => .ok entry
  | none => .error .notFound

/-- Whether a path names anything. -/
def has (disk : Disk) (path : Path) : Bool :=
  (disk.entry path).toOption.isSome

/-- Whether a path names a folder. -/
def hasFolder (disk : Disk) (path : Path) : Bool :=
  (disk.entry path).toOption.any Entry.isFolder

/-- The path of a place. -/
def pathOf (place : Place) : Path :=
  { text := '/' :: Text.join "/" place }

/-- The absolute path without detours of the entry that a path names.  It is found piece by piece,
so the path may have any length. -/
def canonical (disk : Disk) (path : Path) : Except StorageFault Path := do
  match pathFault? path with
  | none | some .nameTooLong => return pathOf (← disk.follow path)
  | some fault => .error fault

/-- The canonical path, or the path itself if it names nothing. -/
def canonicalOr (disk : Disk) (path : Path) : Path :=
  (disk.canonical path).toOption.getD path

/-! ## Reading -/

/-- The text of a file. -/
def readText (disk : Disk) (path : Path) : Except StorageFault Text := do
  match ← disk.entry path with
  | .file (.text t) => .ok t
  | .file (.binary _) => .error .notText
  | .folder _ => .error .isFolder

/-! ## Walking -/

/-- One entry met on a walk. -/
structure Visit where
  /-- The path of the entry, below that of the start of the walk. -/
  path : Path
  /-- The name of the entry. -/
  name : Text
  /-- How many levels the entry lies below the start. -/
  depth : Nat
  /-- Whether the entry is a folder. -/
  isFolder : Bool
  deriving DecidableEq, Repr

end Disk

mutual

/-- All entries at and below an entry, each before those below it. -/
def Entry.visits (path : Path) (name : Text) (depth : Nat) : Entry → List Disk.Visit
  | .file _ => [{ path, name, depth, isFolder := false }]
  | .folder items =>
    { path, name, depth, isFolder := true } :: Entry.visitsOfItems path (depth + 1) items

/-- All entries at and below the items of a folder. -/
def Entry.visitsOfItems (folder : Path) (depth : Nat) : List (Text × Entry) → List Disk.Visit
  | [] => []
  | (name, entry) :: items =>
    entry.visits (folder.join { text := name }) name depth ++
      Entry.visitsOfItems folder depth items

end

namespace Disk

/-- The entries met on a walk. -/
structure Walk where
  /-- The entries, each before those below it. -/
  visits : List Visit := []
  /-- The path at which the walk ended early, and why it did. -/
  fault : Option (Path × StorageFault) := none
  deriving DecidableEq, Repr

/-- The walk along entries.  It ends behind a folder whose path is too long to open it. -/
def Walk.along : List Visit → Walk
  | [] => {}
  | visit :: visits =>
    match if visit.isFolder then pathFault? visit.path else none with
    | some fault => { visits := [visit], fault := some (visit.path, fault) }
    | none =>
      let rest := Walk.along visits
      { rest with visits := visit :: rest.visits }

/-- Walks through all entries at and below a path, each before those below it, the items of a folder
in the order of their names. -/
def walk (disk : Disk) (path : Path) : Walk :=
  match disk.entry path with
  | .error fault => { fault := some (path, fault) }
  | .ok entry => Walk.along (entry.visits path (path.fileName?.getD path.text) 0)

/-! ## Writing -/

/-- Puts an entry at a place. -/
def put (disk : Disk) (place : Place) (new : Entry) (hnew : new.Ordered := by simp) : Disk where
  root := Entry.put new place disk.root
  home := disk.home
  ordered := hnew.put disk.ordered place

/-- The disk with nothing on it but the folder from which relative paths start. -/
def ofHome (home : Place) : Disk :=
  ({ home } : Disk).put home (.folder [])

/-- Splits a path for the creation of what it names: the place of the folder around it, and its
last piece.  The second part says whether separators follow that piece. -/
def creationSite (disk : Disk) (path : Path) : Except StorageFault (Place × Text × Bool) := do
  match pathFault? path with
  | some fault => .error fault
  | none =>
    let reversed := path.pieces.reverse
    let named := reversed.dropWhile (·.isEmpty)
    let around := named.tail.reverse.map Step.ofPiece
    let place ← disk.walkFrom (disk.startOf path) (around ++ [.stay])
    .ok (place, named.head?.getD [], reversed.length != named.length)

/-- Makes a folder in a folder that exists. -/
def makeFolder (disk : Disk) (path : Path) : Except StorageFault Disk := do
  let (place, name, _) ← disk.creationSite path
  match Step.ofPiece name with
  | .stay | .up =>
    let _ ← disk.walkStep place (Step.ofPiece name)
    .error .alreadyExists
  | .enter name =>
    match disk.walkStep place (.enter name) with
    | .ok _ => .error .alreadyExists
    | .error .notFound =>
      .ok (disk.put (place ++ [name]) (.folder []))
    | .error fault => .error fault

/-- Writes a file in a folder that exists; an old file is replaced.  A separator at the end names a
folder, whatever stands before it. -/
def write (disk : Disk) (path : Path) (content : Content) : Except StorageFault Disk := do
  let (place, name, isClosed) ← disk.creationSite path
  match Step.ofPiece name with
  | .stay | .up =>
    let _ ← disk.walkStep place (Step.ofPiece name)
    .error .isFolder
  | .enter name =>
    let written := disk.put (place ++ [name]) (.file content)
    if isClosed then .error .isFolder
    else
      match disk.walkStep place (.enter name) with
      | .ok file =>
        if (disk.root.at? file).any Entry.isFolder then .error .isFolder else .ok written
      | .error .notFound => .ok written
      | .error fault => .error fault

/-- Writes a text into a file in a folder that exists; an old file is replaced. -/
def writeText (disk : Disk) (path : Path) (t : Text) : Except StorageFault Disk :=
  disk.write path (.text t)

/-- Makes a folder and the folders around it, given the path and its parents, the nearest first.
Gives the disk as it is afterwards, and the fault if there was one. -/
def makeFoldersAlong (disk : Disk) : List Path → Disk × Except StorageFault Unit
  | [] => (disk, .error .notFound)
  | path :: parents =>
    if path.text.isEmpty then (disk, .ok ())
    else
      match disk.makeFolder path with
      | .ok made => (made, .ok ())
      | .error .notFound =>
        match disk.makeFoldersAlong parents with
        | (around, .error fault) => (around, .error fault)
        | (around, .ok ()) =>
          match around.makeFolder path with
          | .ok made => (made, .ok ())
          | .error fault =>
            if around.hasFolder path then (around, .ok ()) else (around, .error fault)
      | .error fault => if disk.hasFolder path then (disk, .ok ()) else (disk, .error fault)

/-- Makes a folder and the folders around it that are missing. -/
def makeFolders (disk : Disk) (path : Path) : Disk × Except StorageFault Unit :=
  disk.makeFoldersAlong path.ancestors

/-- Removes what a path names, with everything below it. -/
def removeAll (disk : Disk) (path : Path) : Disk :=
  match disk.resolve path with
  | .ok place =>
    { root := Entry.remove place disk.root
      home := disk.home
      ordered := disk.ordered.remove place }
  | .error _ => disk

end Disk

end DeclAtlas
