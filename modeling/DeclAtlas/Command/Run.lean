import DeclAtlas.Command.Basic
import DeclAtlas.Tree.Outline
import DeclAtlas.Tree.Record

/-!
# Running commands

A command loads the settings and the project, remembers the folder among the recent ones and then
does its work.  All it does shows in its outcome: the disk, what it prints and how it ends.
-/

namespace DeclAtlas

/-- Why a command failed. -/
inductive CommandError where
  /-- The sources could not be loaded. -/
  | loading (folder : Path) (error : AtlasError)
  /-- Something else went wrong. -/
  | other (error : AtlasError)
  deriving DecidableEq, Repr

namespace CommandError

/-- The message of an error. -/
def message : CommandError → Text
  | .loading folder _ => "Failed to load " ++ folder.text
  | .other error => error.message

/-- The messages of what caused an error, the nearest cause first. -/
def causes : CommandError → List Text
  | .loading _ error => error.message :: error.causes
  | .other error => error.causes

/-- A text with its lines behind the first one indented. -/
def indentRest (columns : Nat) (t : Text) : Text :=
  t.flatMap fun c => if c == '\n' then c :: List.replicate columns ' ' else [c]

/-- The line of the only cause of an error. -/
def causeLine (cause : Text) : Text :=
  "    " ++ indentRest 4 cause ++ "\n"

/-- The line of one of several causes of an error. -/
def numberedLine (number : Nat) (cause : Text) : Text :=
  Text.padStart 5 (Text.ofNat number) ++ ": " ++ indentRest 7 cause ++ "\n"

/-- The lines for the causes of an error.  Several causes are numbered. -/
def causeLines : List Text → Text
  | [] => ""
  | [cause] => "\nCaused by:\n" ++ causeLine cause
  | causes =>
    "\nCaused by:\n" ++ causes.zipIdx.flatMap fun (cause, number) => numberedLine number cause

/-- The report of an error. -/
def report (error : CommandError) : Text :=
  "Error: " ++ error.message ++ "\n" ++ causeLines error.causes

end CommandError

/-- What a command did. -/
structure Outcome where
  /-- The disk as it is afterwards. -/
  disk : Disk
  /-- What is printed. -/
  output : Text := []
  /-- What went wrong with single sources. -/
  warnings : List AtlasError := []
  /-- Why the command failed, if it did. -/
  failure : Option CommandError := none
  /-- The browser to be opened, if that was asked for. -/
  browser : Option Browser := none

namespace Outcome

/-- The code with which the program ends. -/
def code (outcome : Outcome) : Nat :=
  if outcome.failure.isSome then 1 else 0

/-- The line that warns of an error. -/
def warningLine (error : AtlasError) : Text :=
  "warning: " ++ error.message ++ "\n"

/-- What is reported beside the output. -/
def diagnostics (outcome : Outcome) : Text :=
  outcome.warnings.flatMap warningLine ++ (outcome.failure.map CommandError.report).getD []

end Outcome

namespace Command

/-- The version line of the program. -/
def versionLine : Text :=
  "sharpdoc 0.1.0\n"

/-- The settings after a command has read a project: its folder is the most recent one, and the
symbols are remembered if they were given. -/
def rememberSource (settings : Settings) (disk : Disk) (source : SourceChoice) : Settings :=
  let settings := settings.addRecent (disk.canonicalOr source.folder)
  { settings with defineConstants := source.defines.getD settings.defineConstants }

/-- Does the work of a command on a loaded project. -/
def perform (command : Command) (project : Project) (settings : Settings)
    (settingsPath : Option Path) (disk : Disk) : Outcome :=
  let warnings := project.errors
  match command with
  | outline _ asRecord =>
    let output :=
      if asRecord then (project.tree.record Tree.root).write ++ ['\n']
      else project.tree.outline Tree.root
    { disk, output, warnings }
  | site _ target choice =>
    let options := choice.applyTo (.ofSettings settings)
    let outcome := project.tree.exportTo options target.folder target.force disk
    match outcome.result with
    | .error error => { disk := outcome.disk, warnings, failure := some (.other error) }
    | .ok report =>
      let output : Text :=
        "Exported " ++ Text.ofNat report.pages ++ " pages to " ++ target.folder.text ++ "\n"
      { disk := outcome.disk, output, warnings }
  | browse _ target =>
    let browser := Browser.start project settings settingsPath target
    { disk, warnings, browser := some browser }

/-- Loads the project of a command. -/
def loadProject (source : SourceChoice) (settings : Settings) (disk : Disk) :
    Except AtlasError Project :=
  Project.load disk source.folder (source.extension.getD settings.sourceExtension)
    (source.defines.getD settings.defineConstants)

/-- The settings in a file, or the defaults if settings are not kept. -/
def loadSettings (disk : Disk) : Option Path → Except AtlasError Settings
  | some path => Settings.load disk path
  | none => .ok {}

end Command

/-- Runs a command.  The settings file, unless one is named, is that in the folder of the user's
configuration; without either the settings are the defaults and not kept. -/
def Invocation.run (invocation : Invocation) (configuration : Option Path) (disk : Disk) :
    Outcome :=
  let path := invocation.config.or (configuration.map Settings.defaultPath)
  let source := invocation.command.source
  match Command.loadSettings disk path with
  | .error error => { disk, failure := some (.other error) }
  | .ok settings =>
    match Command.loadProject source settings disk with
    | .error error => { disk, failure := some (.loading source.folder error) }
    | .ok project =>
      let settings := Command.rememberSource settings disk source
      invocation.command.perform project settings path (settings.saveIn disk path)

end DeclAtlas
