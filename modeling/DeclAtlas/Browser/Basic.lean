import DeclAtlas.Browser.Row
import DeclAtlas.Project
import DeclAtlas.Settings.Storage
import DeclAtlas.Site.Export

/-!
# The browser

The browser shows the rows of a project's tree and the facts of the selected one.  A key moves the
selection, expands or collapses a row, edits the defined symbols or writes the site.  Whatever a key
does is one step, `Browser.press`, on the browser and the disk; a session is the fold of the keys.

A site is written in the background: its outcome is there as soon as the export has been started,
but the browser takes notice of it only when it next looks, `Browser.settle`.
-/

namespace DeclAtlas

/-- A key of the keyboard. -/
inductive Key where
  | char (c : Char)
  | up
  | down
  | left
  | right
  | enter
  | tab
  | escape
  | backspace
  /-- A key without a use. -/
  | other
  deriving DecidableEq, Repr

/-- The key of a name: its character, or a word for a key without one. -/
def Key.ofName (name : Text) : Key :=
  let named : List (Text × Key) :=
    [("Up", .up), ("Down", .down), ("Left", .left), ("Right", .right), ("Enter", .enter),
      ("Tab", .tab), ("Esc", .escape), ("Backspace", .backspace)]
  match name with
  | [c] => .char c
  | _ => (named.lookup name).getD .other

/-- The pane that takes the keys. -/
inductive Focus where
  | tree
  | info
  deriving DecidableEq, Repr

/-- The other pane. -/
def Focus.next : Focus → Focus
  | .tree => .info
  | .info => .tree

/-- Where the browser writes a site. -/
structure ExportTarget where
  /-- The folder for the pages. -/
  folder : Path
  /-- Whether the folder may hold something already. -/
  force : Bool := false
  deriving DecidableEq, Repr

/-- The state of the browser. -/
structure Browser where
  /-- The project that is shown. -/
  project : Project
  /-- The settings, which remember the defined symbols. -/
  settings : Settings
  /-- The file of the settings, if they are kept. -/
  settingsPath : Option Path
  /-- Where a site is written. -/
  target : ExportTarget
  /-- The pane that takes the keys. -/
  focus : Focus := .tree
  /-- The text typed so far while the defined symbols are edited. -/
  input : Option Text := none
  /-- The nodes that are expanded. -/
  expanded : List NodeId := []
  /-- The number of the selected row. -/
  selected : Nat := 0
  /-- The first row that is shown. -/
  treeScroll : Nat := 0
  /-- The first line of the facts that is shown. -/
  infoScroll : Nat := 0
  /-- How the export in the background ends, until notice is taken. -/
  pendingExport : Option (Except AtlasError ExportReport) := none
  /-- Whether the user wants to leave. -/
  hasQuit : Bool := false
  /-- The message for the user. -/
  status : Text

namespace Browser

/-- The browser as it starts on a project. -/
def start (project : Project) (settings : Settings) (settingsPath : Option Path)
    (target : ExportTarget) : Browser :=
  { project, settings, settingsPath, target, status := project.statusLine }

/-- The rows that can be seen by scrolling. -/
def rows (browser : Browser) : List Row :=
  browser.project.tree.rows browser.expanded

/-- The node of the selected row. -/
def selectedNode? (browser : Browser) : Option NodeId :=
  browser.rows[browser.selected]?.map Row.node

/-- Whether an export is in the background. -/
def isExporting (browser : Browser) : Bool :=
  browser.pendingExport.isSome

/-! ## Moving and folding -/

/-- One row up, or one line of the facts. -/
def moveUp (browser : Browser) : Browser :=
  match browser.focus with
  | .tree => { browser with selected := browser.selected - 1, infoScroll := 0 }
  | .info => { browser with infoScroll := browser.infoScroll - 1 }

/-- One row down if there is one, or one line of the facts. -/
def moveDown (browser : Browser) : Browser :=
  match browser.focus with
  | .tree =>
    let next := browser.selected + 1
    let selected := if next < browser.rows.length then next else browser.selected
    { browser with selected, infoScroll := 0 }
  | .info => { browser with infoScroll := browser.infoScroll + 1 }

/-- Expands the selected row if there is something below it. -/
def expand (browser : Browser) : Browser :=
  match browser.selectedNode? with
  | none => browser
  | some node =>
    if (browser.project.tree.children node).isEmpty || browser.expanded.contains node then browser
    else { browser with expanded := node :: browser.expanded }

/-- Selects the row of a node if it has one. -/
def selectNode (browser : Browser) (node : NodeId) : Browser :=
  match browser.rows.findIdx? fun row => row.node == node with
  | some number => { browser with selected := number }
  | none => browser

/-- Collapses the selected row, or selects the row above it if it is not expanded. -/
def collapse (browser : Browser) : Browser :=
  match browser.selectedNode? with
  | none => browser
  | some node =>
    if browser.expanded.contains node then
      { browser with expanded := browser.expanded.filter (· != node) }
    else
      match browser.project.tree.parent? node with
      | some parent => if parent = Tree.root then browser else browser.selectNode parent
      | none => browser

/-! ## Reading again and writing -/

/-- Reads the project again with other symbols, and remembers them. -/
def reload (browser : Browser) (disk : Disk) (defines : Text) : Browser × Disk :=
  match browser.project.reload disk defines with
  | (project, .error error) =>
    ({ browser with project, status := "Reload failed: " ++ error.message }, disk)
  | (project, .ok ()) =>
    let browser := { browser with
      project
      expanded := []
      selected := 0
      treeScroll := 0
      infoScroll := 0
      status := project.statusLine
      settings := { browser.settings with defineConstants := defines } }
    (browser, browser.settings.saveIn disk browser.settingsPath)

/-- Starts an export, one at a time.  The selection that it makes does not show in the project. -/
def startExport (browser : Browser) (disk : Disk) : Browser × Disk :=
  if browser.isExporting then ({ browser with status := "An export is already running" }, disk)
  else
    let target := browser.target
    let outcome := browser.project.tree.exportTo (.ofSettings browser.settings) target.folder
      target.force disk
    ({ browser with pendingExport := some outcome.result }, outcome.disk)

/-- Takes notice of the export in the background. -/
def settle (browser : Browser) : Browser :=
  match browser.pendingExport with
  | none => browser
  | some (.ok report) =>
    { browser with
      pendingExport := none
      status := "Finished! " ++ Text.ofNat report.pages ++ " pages in " ++
        browser.target.folder.text }
  | some (.error error) =>
    { browser with pendingExport := none, status := "Export failed: " ++ error.message }

/-! ## Keys -/

/-- What a key does while the defined symbols are edited. -/
def pressEditing (browser : Browser) (disk : Disk) (input : Text) : Key → Browser × Disk
  | .char c => ({ browser with input := some (input ++ [c]) }, disk)
  | .backspace => ({ browser with input := some input.dropLast }, disk)
  | .enter => { browser with input := none }.reload disk input
  | .escape => ({ browser with input := none, status := browser.project.statusLine }, disk)
  | _ => (browser, disk)

/-- What a key does otherwise. -/
def pressBrowsing (browser : Browser) (disk : Disk) : Key → Browser × Disk
  | .char 'q' | .char 'Q' => ({ browser with hasQuit := true }, disk)
  | .char 'd' => ({ browser with input := some browser.project.defines }, disk)
  | .char 'g' => browser.startExport disk
  | .tab => ({ browser with focus := browser.focus.next }, disk)
  | .up => (browser.moveUp, disk)
  | .down => (browser.moveDown, disk)
  | .right | .enter => (browser.expand, disk)
  | .left => (browser.collapse, disk)
  | _ => (browser, disk)

/-- What a key does. -/
def press (browser : Browser) (disk : Disk) (key : Key) : Browser × Disk :=
  match browser.input with
  | some input => browser.pressEditing disk input key
  | none => browser.pressBrowsing disk key

/-- What a sequence of keys does. -/
def pressAll (browser : Browser) (disk : Disk) (keys : List Key) : Browser × Disk :=
  keys.foldl (fun (browser, disk) key => browser.press disk key) (browser, disk)

end Browser

end DeclAtlas
