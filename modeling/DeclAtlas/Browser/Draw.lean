import DeclAtlas.Browser.Basic
import DeclAtlas.Browser.InfoPane
import DeclAtlas.Browser.StatusBar

/-!
# The screen of the browser

The pane of the tree and the pane of facts stand side by side above the status bar.  Drawing brings
the selection and the scroll positions into range.
-/

namespace DeclAtlas.Browser

open Screen

/-- What is said of the project. -/
def projectLines (project : Project) : List Text :=
  [project.folder.text, project.statusLine, Text.ofNat project.files.length ++ " files parsed"] ++
    project.errors.map AtlasError.message

/-- What goes on. -/
def activity (browser : Browser) : Activity :=
  match browser.input with
  | some input => .editing input
  | none => if browser.isExporting then .exporting 0 else .browsing

/-- The pane of the tree. -/
def treePane (browser : Browser) : TreePane :=
  { tree := browser.project.tree
    rows := browser.rows
    selected := browser.selected
    isFocused := browser.focus == .tree }

/-- The pane of facts. -/
def infoPane (browser : Browser) : InfoPane :=
  { tree := browser.project.tree
    node := browser.selectedNode?
    projectLines := projectLines browser.project
    isFocused := browser.focus == .info }

/-- The status bar.  The root is no element. -/
def statusBar (browser : Browser) : StatusBar :=
  { activity := browser.activity
    message := browser.status
    elements := browser.project.tree.size - 1 }

/-- Selects the last row if the selection is behind it. -/
def clampSelection (browser : Browser) : Browser :=
  { browser with selected := min browser.selected (browser.rows.length - 1) }

/-- The browser with its positions in range, and its screen.  There is none if a line of the pane of
facts runs off the screen. -/
def draw? (browser : Browser) (width height : Nat) : Option (Browser × Picture) :=
  let browser := browser.clampSelection
  let barHeight := min 1 height
  let paneHeight := height - barHeight
  let treeWidth := share width 55
  let treePane := browser.treePane
  let infoPane := browser.infoPane
  (infoPane.draw? browser.infoScroll (width - treeWidth) paneHeight).map fun info =>
    let panes := Picture.beside (treePane.draw browser.treeScroll treeWidth paneHeight) info
    let browser := { browser with
      treeScroll := treePane.scrolled browser.treeScroll paneHeight
      infoScroll := infoPane.scrolled browser.infoScroll paneHeight }
    (browser, panes ++ browser.statusBar.draw width barHeight)

end DeclAtlas.Browser
