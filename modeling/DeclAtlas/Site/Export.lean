import DeclAtlas.Error
import DeclAtlas.Site.Plan
import DeclAtlas.Site.Progress
import DeclAtlas.Site.Selection

/-!
# Writing a site

An export selects the documented nodes of a tree, plans the pages and writes them one after the
other into a folder, reporting its progress.  It stops at the first failure; what was written up to
then stays.
-/

namespace DeclAtlas

/-- What a finished export has written. -/
structure ExportReport where
  /-- The number of pages. -/
  pages : Nat
  /-- The files of the pages, in the order of writing. -/
  files : List Path
  /-- The number of redirecting pages. -/
  redirects : Nat
  deriving DecidableEq, Repr

/-- An export that is going on, or the state in which it ended. -/
structure ExportRun where
  /-- The disk that is written. -/
  disk : Disk
  /-- The reports of progress so far. -/
  events : List ProgressEvent := []

/-- A part of an export: it goes on from a run, and may fail. -/
abbrev ExportStep := ExceptT AtlasError (StateM ExportRun)

namespace Export

/-- Reports a status line. -/
def status (line : Text) : ExportStep Unit :=
  modify fun run => { run with events := run.events ++ [.status line] }

/-- Reports progress. -/
def report (events : List ProgressEvent) : ExportStep Unit :=
  modify fun run => { run with events := run.events ++ events }

/-- Makes a folder and those around it. -/
def makeFolders (path : Path) : ExportStep Unit := do
  let run ← get
  let (disk, result) := run.disk.makeFolders path
  set { run with disk }
  match result with
  | .ok () => pure ()
  | .error fault => throw (.storage .create path fault)

/-- Writes a file. -/
def writeFile (path : Path) (content : Text) : ExportStep Unit := do
  let run ← get
  match run.disk.writeText path content with
  | .ok disk => set { run with disk }
  | .error fault => throw (.storage .write path fault)

/-- Prepares the folder for the pages.  Unless `force` is set it must not hold anything. -/
def prepare (out : Path) (force : Bool) : ExportStep Unit := do
  let entry := ((← get).disk.entry out).toOption
  let isFilled := entry.any fun entry => !entry.items.isEmpty
  if isFilled && !force then throw (.outputNotEmpty out)
  makeFolders out

/-- Writes one page: the `number`th of `pages`. -/
def writePage (pages number : Nat) (page : PlannedPage) : ExportStep Unit := do
  match page.path.parent? with
  | some parent => makeFolders parent
  | none => pure ()
  writeFile page.path page.content
  report (Progress.afterPage page.label number pages)

/-- Writes the pages of a plan, of which `written` out of `pages` have been written before. -/
def writePages (pages written : Nat) : List PlannedPage → ExportStep Unit
  | [] => pure ()
  | page :: rest => do
    writePage pages (written + 1) page
    writePages pages (written + 1) rest

/-- The page that the redirection of a folder leads to: the index, or the page beside the folder. -/
def redirectTarget (extension : Text) (visit : Disk.Visit) : Text :=
  if visit.depth = 0 then "index." ++ extension else "../" ++ visit.name ++ "." ++ extension

/-- Writes redirecting pages into those of the folders that have none, and counts them. -/
def writeRedirectsInto (extension : Text) : List Disk.Visit → ExportStep Nat
  | [] => pure 0
  | visit :: visits => do
    let path := visit.path.join "index.php"
    if visit.isFolder && !(← get).disk.has path then
      writeFile path (Page.redirect (redirectTarget extension visit))
      return 1 + (← writeRedirectsInto extension visits)
    else writeRedirectsInto extension visits

/-- Writes redirecting pages into all folders of a site that have none, and counts them. -/
def writeRedirects (out : Path) (extension : Text) : ExportStep Nat := do
  let walk := (← get).disk.walk out
  let written ← writeRedirectsInto extension walk.visits
  match walk.fault with
  | none => return written
  | some (path, fault) => throw (.walk out path fault)

/-- Writes the site for a tree, given the tree with the selection made. -/
def writeSite (tree : Tree) (options : ExportOptions) (out : Path) : ExportStep ExportReport := do
  report [.percent 0, .status "Selecting nodes to export...",
    .status "Preprocessing nodes to export..."]
  let plan := tree.plan options out
  let pages := plan.length
  status (Progress.exportingLine (tree.label Tree.root) 0 pages)
  writePages pages 0 plan
  let redirects ←
    if options.writeRedirects then do
      status "Generating index.php fillers..."
      writeRedirects out options.extension
    else pure 0
  report [.status "Finished!", .percent 100]
  return { pages, files := plan.map PlannedPage.path, redirects }

end Export

/-- How an export ended. -/
structure ExportOutcome where
  /-- The report, or why the export stopped. -/
  result : Except AtlasError ExportReport
  /-- The tree with the selection that was made. -/
  tree : Tree
  /-- The disk as it is afterwards. -/
  disk : Disk
  /-- The reports of progress. -/
  events : List ProgressEvent

/-- Writes the site for a tree into a folder of a disk.  If the folder cannot be prepared, nothing
is selected. -/
def Tree.exportTo (tree : Tree) (options : ExportOptions) (out : Path) (force : Bool)
    (disk : Disk) : ExportOutcome :=
  let chosen := tree.select Tree.root options
  match (Export.prepare out force).run { disk } with
  | (.error error, run) => { result := .error error, tree, disk := run.disk, events := run.events }
  | (.ok (), run) =>
    let (result, run) := (Export.writeSite chosen options out).run run
    { result, tree := chosen, disk := run.disk, events := run.events }

end DeclAtlas
