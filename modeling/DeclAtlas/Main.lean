import DeclAtlas.Browser.Draw
import DeclAtlas.Command.Run

/-!
# The program

The outer layer: it copies the part of the file system that a command can touch into a `Disk`, runs
the command on it, writes back what has changed and prints the outcome.

The browser reads keys by name, several to a line, and shows its screen after each line.
-/

namespace DeclAtlas.Main

/-- The content of a file from its bytes. -/
def contentOf (bytes : ByteArray) : Content :=
  match String.fromUTF8? bytes with
  | some s => .text s.toList
  | none => .binary bytes.toList

/-- The bytes of a file from its content. -/
def bytesOf : Content → ByteArray
  | .text t => (String.ofList t).toUTF8
  | .binary bytes => ⟨bytes.toArray⟩

/-- The place of an absolute path. -/
def placeOf (path : String) : Place :=
  ({ text := path.toList } : Path).pieces.filter fun piece => !piece.isEmpty

/-- Copies what a path names to a place of a disk, with everything below it.  What cannot be read is
left out. -/
partial def copyTo (disk : Disk) (place : Place) (path : String) : IO Disk := do
  try
    let real ← IO.FS.realPath path
    if ← real.isDir then
      let mut disk := disk.put place (.folder [])
      for item in ← real.readDir do
        disk ← copyTo disk (place ++ [item.fileName.toList]) item.path.toString
      return disk
    else
      return disk.put place (.file (contentOf (← IO.FS.readBinFile real)))
  catch _ => return disk

/-- Puts a copy of what a path names onto a disk. -/
def copyOnto (disk : Disk) (path : Path) : IO Disk := do
  try
    let real ← IO.FS.realPath (String.ofList path.text)
    copyTo disk (placeOf real.toString) real.toString
  catch _ => return disk

/-- Puts a copy of what a path names onto a disk, and of the file that stands in its way, if one
does. -/
def copyAlong (disk : Disk) (path : Path) : IO Disk := do
  let mut disk := disk
  for folder in path.ancestors.tail do
    try
      if !(← (← IO.FS.realPath (String.ofList folder.text)).isDir) then
        disk ← copyOnto disk folder
    catch _ => pure ()
  copyOnto disk path

/-- Writes back the files and folders in which two disks differ. -/
def writeBack (old new : Disk) : IO Unit := do
  for visit in Entry.visitsOfItems "/" 1 new.root.items do
    let name := String.ofList visit.path.text
    match new.entry visit.path, old.entry visit.path with
    | .ok (.folder _), .ok (.folder _) => pure ()
    | .ok (.folder _), _ => IO.FS.createDirAll name
    | .ok (.file content), .ok (.file before) =>
      if content != before then IO.FS.writeBinFile name (bytesOf content)
    | .ok (.file content), _ => IO.FS.writeBinFile name (bytesOf content)
    | _, _ => pure ()

/-- The folder of the user's configuration. -/
def configuration : IO (Option Path) := do
  match ← IO.getEnv "XDG_CONFIG_HOME" with
  | some folder => if folder.startsWith "/" then return some { text := folder.toList }
  | none => pure ()
  return (← IO.getEnv "HOME").map fun home => Path.join { text := home.toList } ".config"

/-- The paths that an invocation can touch. -/
def touched (invocation : Invocation) (configuration : Option Path) : List Path :=
  let settings := invocation.config.or (configuration.map Settings.defaultPath)
  let target := match invocation.command with
    | .outline .. => []
    | .site _ target _ | .browse _ target => [target.folder]
  invocation.command.source.folder :: target ++ settings.toList

/-- Shows the browser and passes it the keys of each line until the user leaves. -/
partial def browse (browser : Browser) (disk : Disk) : IO Unit := do
  let browser := browser.settle
  let (browser, picture) := (browser.draw? 80 24).getD (browser, [])
  for row in picture.shown do
    IO.println (String.ofList (row.flatMap Screen.Cell.text))
  if browser.hasQuit then return
  let line ← (← IO.getStdin).getLine
  if line.isEmpty then return
  let (browser, after) := browser.pressAll disk ((Text.words line.toList).map Key.ofName)
  writeBack disk after
  browse browser after

/-- Runs an invocation on the file system. -/
def perform (invocation : Invocation) : IO UInt32 := do
  let home := placeOf (← IO.currentDir).toString
  let configuration ← configuration
  let disk ← (touched invocation configuration).foldlM copyAlong (Disk.ofHome home)
  let outcome := invocation.run configuration disk
  writeBack disk outcome.disk
  IO.print (String.ofList outcome.output)
  IO.eprint (String.ofList outcome.diagnostics)
  if let some browser := outcome.browser then
    browse browser outcome.disk
  return outcome.code.toUInt32

end DeclAtlas.Main

/-- The command line. -/
def main (arguments : List String) : IO UInt32 := do
  match DeclAtlas.Command.read (arguments.map String.toList) with
  | .error .refused =>
    IO.eprint (String.ofList DeclAtlas.Command.helpText)
    return 2
  | .error .version =>
    IO.print (String.ofList DeclAtlas.Command.versionLine)
    return 0
  | .error .help =>
    IO.print (String.ofList DeclAtlas.Command.helpText)
    return 0
  | .ok invocation => DeclAtlas.Main.perform invocation
