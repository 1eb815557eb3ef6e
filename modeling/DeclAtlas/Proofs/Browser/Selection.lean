import Mathlib
import DeclAtlas.Browser.Draw
import DeclAtlas.Proofs.Browser.Row
import DeclAtlas.Proofs.Project.Reload
import DeclAtlas.Proofs.Scanner.Growth

/-!
# The selection of the browser

The browser remembers its selection as the number of a row, while the rows are computed anew from
the tree and the expanded nodes.  Keys change all of these: rows come and go around the selected
one, and a reload replaces the tree and with it the numbers of the nodes.

**Theorem** (`Browser.Session.selection_valid`): in every session the selection is the number of a
row if there are any rows.  Expanding and collapsing keep the selected node, and moving up from a
collapsed row leads to the row of the node above it.

`Sound` is what a step has to keep: the project is a loaded one, and the selection is in range.
Reading again makes the selection the first row.  If it fails it does not, but then the tree has
only a root and there are no rows at all (`rows_of_reload_error`).
-/

namespace DeclAtlas

/-! ## Trees of projects -/

namespace Project

/-- Every project that is read from disk has a tree that reading sources leads to. -/
theorem reached_addFiles (disk : Disk) (folder : Path) (extension defines : Text) :
    (addFiles disk (unread disk folder extension defines)).1.tree.Reached := by
  refine addFiles_induction (P := fun project => project.tree.Reached) ?_ (.ofLabel _)
  intro project path hreached
  unfold addFile
  split
  · exact hreached
  · exact hreached.read Tree.root hreached.wellFormed_and_unmarked.1.size_pos _ _

/-- **The tree of a loaded project** comes from reading sources. -/
theorem Loaded.marked_tree {project : Project} (h : project.Loaded) : project.tree.Marked := by
  induction h with
  | @first disk folder extension defines project h =>
      have hreached := reached_addFiles disk folder (bareExtension extension) defines
      rw [(load_eq_ok_iff.1 h).2] at hreached
      exact .reached hreached
  | again _ disk defines _ => exact .reached (reached_addFiles disk _ _ defines)
  | marked _ id flag ih => exact .mark ih id flag

end Project

namespace Browser

/-- The browsers of a session.  It starts on a loaded project.  Then keys are pressed, each with the
disk as it is at that time, notice is taken of exports and the screen is drawn, in any order. -/
inductive Session : Browser → Prop
  | started {project : Project} (h : project.Loaded) (settings : Settings)
      (settingsPath : Option Path) (target : ExportTarget) :
      Session (start project settings settingsPath target)
  | pressed {browser : Browser} (h : Session browser) (disk : Disk) (key : Key) :
      Session (browser.press disk key).1
  | settled {browser : Browser} (h : Session browser) : Session browser.settle
  | drawn {browser : Browser} (h : Session browser) {width height : Nat}
      {result : Browser × Screen.Picture} (hdraw : browser.draw? width height = some result) :
      Session result.1

/-- A sequence of keys is part of a session. -/
theorem Session.pressAll {browser : Browser} (h : Session browser) (disk : Disk)
    (keys : List Key) : Session (browser.pressAll disk keys).1 := by
  induction keys generalizing browser disk with
  | nil => exact h
  | cons key keys ih => exact ih (h.pressed disk key) _

/-- The row that is selected. -/
def selectedRow? (browser : Browser) : Option Row :=
  browser.rows[browser.selected]?

/-- What a session keeps. -/
structure Sound (browser : Browser) : Prop where
  /-- The project is a loaded one. -/
  loaded : browser.project.Loaded
  /-- If there are rows, one of them is selected. -/
  selected : browser.rows ≠ [] → browser.selected < browser.rows.length

variable {browser : Browser}

/-- The tree that is browsed is well-formed. -/
theorem Sound.wellFormed (h : browser.Sound) : browser.project.tree.WellFormed :=
  h.loaded.marked_tree.wellFormed

/-- What is selected can be seen from the rows. -/
theorem selectedNode?_eq (browser : Browser) :
    browser.selectedNode? = browser.selectedRow?.map Row.node :=
  rfl

/-- The selection stays in range if the rows and the selection stay. -/
theorem Sound.of_eq (h : browser.Sound) {after : Browser}
    (hproject : after.project = browser.project) (hexpanded : after.expanded = browser.expanded)
    (hselected : after.selected = browser.selected) : after.Sound := by
  have hrows : after.rows = browser.rows := by
    rw [rows, hproject, hexpanded, rows]
  refine ⟨hproject ▸ h.loaded, fun hne => ?_⟩
  rw [hrows] at hne ⊢
  rw [hselected]
  exact h.selected hne

/-- The selection is in range if a row is selected. -/
theorem Sound.of_selectedRow? {after : Browser} (hloaded : after.project.Loaded) {row : Row}
    (hrow : after.selectedRow? = some row) : after.Sound :=
  ⟨hloaded, fun _ => (List.getElem?_eq_some_iff.1 hrow).1⟩

/-! ## Expanding and collapsing -/

/-- A row after an attempt to expand it. -/
def expandedRow (row : Row) : Row :=
  { row with isExpanded := row.isExpanded || row.hasChildren }

/-- Without a selected row there is nothing to expand. -/
theorem expand_of_none (h : browser.selectedRow? = none) : browser.expand = browser := by
  rw [expand, selectedNode?_eq, h]
  rfl

/-- Without a selected row there is nothing to collapse. -/
theorem collapse_of_none (h : browser.selectedRow? = none) : browser.collapse = browser := by
  rw [collapse, selectedNode?_eq, h]
  rfl

section selected

variable {row : Row} (h : browser.Sound) (hrow : browser.selectedRow? = some row)
include h hrow

/-- A row says of its node what the browser knows of it. -/
theorem Sound.of_selectedRow?_eq_some :
    row.isExpanded = browser.expanded.contains row.node ∧
      row.hasChildren = !(browser.project.tree.children row.node).isEmpty := by
  obtain ⟨heq, -, -⟩ := h.wellFormed.of_mem_rows (List.mem_of_getElem? hrow)
  constructor
  · exact congrArg Row.isExpanded heq
  · exact congrArg Row.hasChildren heq

/-- The selected row stays selected when it is expanded. -/
theorem Sound.selectedRow?_expand_of_some :
    browser.expand.selectedRow? = some (expandedRow row) := by
  obtain ⟨hexpanded, hchildren⟩ := h.of_selectedRow?_eq_some hrow
  rw [expand, selectedNode?_eq, hrow, Option.map_some]
  dsimp only
  split_ifs with hstays
  · -- there is nothing to expand
    have hflag : (row.isExpanded || row.hasChildren) = row.isExpanded := by
      rw [hexpanded, hchildren]
      rcases Bool.or_eq_true_iff.1 hstays with hempty | hcontains
      · simp [hempty]
      · rw [hcontains, Bool.true_or]
    rw [hrow, expandedRow, hflag]
  · have hsame : ∀ other, other ≠ row.node →
        (other ∈ row.node :: browser.expanded ↔ other ∈ browser.expanded) := by
      intro other hother
      rw [List.mem_cons, or_iff_right hother]
    have hopen : row.hasChildren = true := by
      rw [Bool.or_eq_true, not_or, Bool.not_eq_true] at hstays
      rw [hchildren, hstays.1, Bool.not_false]
    refine (h.wellFormed.getElem?_rows_congr hrow hsame).trans (congrArg some ?_)
    rw [expandedRow, hopen, Bool.or_true, List.contains_iff_mem.2 List.mem_cons_self]

/-- **Collapsing** an expanded row changes it and keeps it selected. -/
theorem Sound.selectedRow?_collapse (hexpanded : row.isExpanded = true) :
    browser.collapse.selectedRow? = some { row with isExpanded := false } := by
  rw [(h.of_selectedRow?_eq_some hrow).1] at hexpanded
  rw [collapse, selectedNode?_eq, hrow, Option.map_some]
  dsimp only
  rw [if_pos hexpanded]
  have hsame : ∀ other, other ≠ row.node →
      (other ∈ browser.expanded.filter (· != row.node) ↔ other ∈ browser.expanded) := by
    intro other hother
    rw [List.mem_filter, bne_iff_ne, and_iff_left hother]
  have hgone : (browser.expanded.filter (· != row.node)).contains row.node = false := by
    rw [← Bool.not_eq_true, List.contains_iff_mem, List.mem_filter]
    simp
  have hrows := h.wellFormed.getElem?_rows_congr hrow hsame
  rwa [hgone] at hrows

/-- On a collapsed row right below the root there is nothing to do. -/
theorem Sound.collapse_of_parent?_root (hexpanded : row.isExpanded = false)
    (hparent : browser.project.tree.parent? row.node = some Tree.root) :
    browser.collapse = browser := by
  rw [(h.of_selectedRow?_eq_some hrow).1, ← Bool.not_eq_true] at hexpanded
  rw [collapse, selectedNode?_eq, hrow, Option.map_some]
  dsimp only
  rw [if_neg hexpanded, hparent]
  exact if_pos rfl

/-- **Moving up** from a collapsed row selects the row of the node above it. -/
theorem Sound.collapse_of_parent? (hexpanded : row.isExpanded = false) {parent : NodeId}
    (hparent : browser.project.tree.parent? row.node = some parent) (hroot : parent ≠ Tree.root) :
    ∃ number, browser.collapse = { browser with selected := number } ∧
      number < browser.selected ∧
      browser.rows[number]? = some (browser.project.tree.rowOf browser.expanded parent) ∧
      (browser.project.tree.rowOf browser.expanded parent).depth + 1 = row.depth := by
  rw [(h.of_selectedRow?_eq_some hrow).1, ← Bool.not_eq_true] at hexpanded
  obtain ⟨number, hlt, hfind, hat, hdepth⟩ := h.wellFormed.exists_row_above hrow hparent hroot
  refine ⟨number, ?_, hlt, hat, hdepth⟩
  rw [collapse, selectedNode?_eq, hrow, Option.map_some]
  dsimp only
  rw [if_neg hexpanded, hparent]
  dsimp only
  rw [if_neg hroot, selectNode, rows, hfind]

end selected

/-- **Expanding** changes the selected row and keeps it selected. -/
theorem Sound.selectedRow?_expand (h : browser.Sound) :
    browser.expand.selectedRow? = browser.selectedRow?.map expandedRow := by
  rcases hrow : browser.selectedRow? with _ | row
  · rw [expand_of_none hrow, hrow, Option.map_none]
  · exact h.selectedRow?_expand_of_some hrow

/-! ## Steps -/

/-- Moving up keeps the browser sound. -/
theorem Sound.moveUp (h : browser.Sound) : browser.moveUp.Sound := by
  unfold Browser.moveUp
  split
  · refine ⟨h.loaded, fun hne => ?_⟩
    exact Nat.lt_of_le_of_lt (Nat.sub_le _ _) (h.selected hne)
  · exact h.of_eq rfl rfl rfl

/-- Moving down keeps the browser sound. -/
theorem Sound.moveDown (h : browser.Sound) : browser.moveDown.Sound := by
  unfold Browser.moveDown
  split
  · refine ⟨h.loaded, fun hne => ?_⟩
    dsimp only
    split_ifs with hnext
    · exact hnext
    · exact h.selected hne
  · exact h.of_eq rfl rfl rfl

/-- Expanding keeps the browser sound. -/
theorem Sound.expand (h : browser.Sound) : browser.expand.Sound := by
  rcases hrow : browser.selectedRow? with _ | row
  · rwa [expand_of_none hrow]
  · refine .of_selectedRow? ?_ (h.selectedRow?_expand_of_some hrow)
    unfold Browser.expand
    split
    · exact h.loaded
    · split_ifs <;> exact h.loaded

/-- Collapsing leaves the project as it was loaded. -/
theorem loaded_collapse (h : browser.project.Loaded) : browser.collapse.project.Loaded := by
  unfold collapse
  split
  · exact h
  · split_ifs
    · exact h
    · split
      · split_ifs
        · exact h
        · unfold selectNode
          split <;> exact h
      · exact h

/-- Collapsing keeps the browser sound. -/
theorem Sound.collapse (h : browser.Sound) : browser.collapse.Sound := by
  rcases hrow : browser.selectedRow? with _ | row
  · rwa [collapse_of_none hrow]
  · have hloaded := loaded_collapse h.loaded
    rcases hexpanded : row.isExpanded with _ | _
    · obtain ⟨parent, hparent, -⟩ :=
        h.wellFormed.exists_parent?_of_mem_rows (List.mem_of_getElem? hrow)
      by_cases hroot : parent = Tree.root
      · subst hroot
        rwa [h.collapse_of_parent?_root hrow hexpanded hparent]
      · obtain ⟨number, heq, -, hat, -⟩ := h.collapse_of_parent? hrow hexpanded hparent hroot
        rw [heq] at hloaded ⊢
        exact .of_selectedRow? hloaded hat
    · exact .of_selectedRow? hloaded (h.selectedRow?_collapse hrow hexpanded)

/-- A reload that fails leaves no rows behind. -/
theorem rows_of_reload_error {disk : Disk} {project after : Project} {defines : Text}
    {error : AtlasError} (h : Project.reload disk project defines = (after, .error error))
    (expanded : List NodeId) : after.tree.rows expanded = [] := by
  have hafter := (Project.addFiles_eq_error_iff.1 h).2
  rw [hafter]
  rfl

/-- Loading the project again gives a sound browser. -/
theorem Sound.reload (h : browser.Sound) (disk : Disk) (defines : Text) :
    (browser.reload disk defines).1.Sound := by
  have hloaded := h.loaded.again disk defines
  unfold Browser.reload
  rcases hreload : browser.project.reload disk defines with ⟨after, error | ⟨⟩⟩
  · rw [hreload] at hloaded
    exact ⟨hloaded, fun hne => absurd (rows_of_reload_error hreload _) hne⟩
  · rw [hreload] at hloaded
    exact ⟨hloaded, List.length_pos_of_ne_nil⟩

/-- Starting an export keeps the browser sound. -/
theorem Sound.startExport (h : browser.Sound) (disk : Disk) :
    (browser.startExport disk).1.Sound := by
  unfold Browser.startExport
  split_ifs
  · exact h.of_eq rfl rfl rfl
  · exact h.of_eq rfl rfl rfl

/-- Taking notice of an export keeps the browser sound. -/
theorem Sound.settle (h : browser.Sound) : browser.settle.Sound := by
  unfold Browser.settle
  split
  · exact h
  · exact h.of_eq rfl rfl rfl
  · exact h.of_eq rfl rfl rfl

/-- Drawing keeps the browser sound. -/
theorem Sound.draw? (h : browser.Sound) {width height : Nat} {result : Browser × Screen.Picture}
    (hdraw : browser.draw? width height = some result) : result.1.Sound := by
  obtain ⟨info, -, rfl⟩ := Option.map_eq_some_iff.1 hdraw
  have hclamped : browser.clampSelection.Sound := by
    refine ⟨h.loaded, fun hne => ?_⟩
    exact Nat.lt_of_le_of_lt (Nat.min_le_left _ _) (h.selected hne)
  exact hclamped.of_eq rfl rfl rfl

/-- A key in the input line keeps the browser sound. -/
theorem Sound.pressEditing (h : browser.Sound) (disk : Disk) (input : Text) (key : Key) :
    (browser.pressEditing disk input key).1.Sound := by
  cases key with
  | char c => exact h.of_eq rfl rfl rfl
  | backspace => exact h.of_eq rfl rfl rfl
  | enter =>
      have hclosed : { browser with input := none }.Sound := h.of_eq rfl rfl rfl
      exact hclosed.reload disk input
  | escape => exact h.of_eq rfl rfl rfl
  | _ => exact h

/-- A key in the tree keeps the browser sound. -/
theorem Sound.pressBrowsing (h : browser.Sound) (disk : Disk) (key : Key) :
    (browser.pressBrowsing disk key).1.Sound := by
  unfold Browser.pressBrowsing
  split
  · exact h.of_eq rfl rfl rfl
  · exact h.of_eq rfl rfl rfl
  · exact h.of_eq rfl rfl rfl
  · exact h.startExport disk
  · exact h.of_eq rfl rfl rfl
  · exact h.moveUp
  · exact h.moveDown
  · exact h.expand
  · exact h.expand
  · exact h.collapse
  · exact h

/-- **One key** keeps the selection in range, whatever the disk has become. -/
theorem Sound.press (h : browser.Sound) (disk : Disk) (key : Key) :
    (browser.press disk key).1.Sound := by
  unfold Browser.press
  split
  · exact h.pressEditing disk _ key
  · exact h.pressBrowsing disk key

/-- **A whole session** keeps the selection in range. -/
theorem Session.sound (h : browser.Session) : browser.Sound := by
  induction h with
  | started hloaded _ _ _ => exact ⟨hloaded, List.length_pos_of_ne_nil⟩
  | pressed _ disk key ih => exact ih.press disk key
  | settled _ ih => exact ih.settle
  | drawn _ hdraw ih => exact ih.draw? hdraw

/-! ## The selection -/

/-- **The selection stays valid.**  At every point of a session the rows are those of the nodes
below the root with only expanded nodes between the root and them, in pre-order and each once, and
if there are any rows then one is selected.  Unless the symbols are being edited, the keys that
expand and collapse keep the selected row and change only whether it is expanded.  On a row that is
not expanded the key to the left selects the row of the node above, which stands further up and one
level higher; on the top level it does nothing. -/
theorem Session.selection_valid (h : browser.Session) :
    Tree.IsPreorder browser.project.tree.children browser.project.tree.descendants ∧
      browser.rows.map Row.node = (browser.project.tree.descendants Tree.root).filter
        (browser.project.tree.isShown browser.expanded) ∧
      (browser.rows.map Row.node).Nodup ∧
      (browser.rows ≠ [] → browser.selected < browser.rows.length) ∧
      (browser.input = none → ∀ disk : Disk,
        (∀ key, key = .right ∨ key = .enter →
          (browser.press disk key).1.selectedRow? = browser.selectedRow?.map expandedRow) ∧
        ∀ row, browser.selectedRow? = some row →
          (row.isExpanded = true →
            (browser.press disk .left).1.selectedRow? = some { row with isExpanded := false }) ∧
          (row.isExpanded = false → row.depth = 0 → (browser.press disk .left).1 = browser) ∧
          (row.isExpanded = false → 0 < row.depth → ∃ parent number above,
            browser.project.tree.parent? row.node = some parent ∧
              (browser.press disk .left).1 = { browser with selected := number } ∧
              number < browser.selected ∧ browser.rows[number]? = some above ∧
              above.node = parent ∧ above.depth + 1 = row.depth)) := by
  have hsound := h.sound
  have hwf := hsound.wellFormed
  refine ⟨hwf.isPreorder_descendants, hwf.map_node_rows _, hwf.nodup_rows _, hsound.selected, ?_⟩
  intro hinput disk
  have hpress (key : Key) : browser.press disk key = browser.pressBrowsing disk key := by
    rw [press, hinput]
  constructor
  · rintro key (rfl | rfl)
    · rw [hpress]
      exact hsound.selectedRow?_expand
    · rw [hpress]
      exact hsound.selectedRow?_expand
  · intro row hrow
    rw [hpress]
    obtain ⟨parent, hparent, hdepth⟩ :=
      hwf.exists_parent?_of_mem_rows (List.mem_of_getElem? hrow)
    refine ⟨hsound.selectedRow?_collapse hrow, ?_, ?_⟩
    · intro hexpanded hzero
      rw [hdepth.1 hzero] at hparent
      exact hsound.collapse_of_parent?_root hrow hexpanded hparent
    · intro hexpanded hpos
      have hroot : parent ≠ Tree.root := fun hroot => Nat.ne_of_gt hpos (hdepth.2 hroot)
      obtain ⟨number, heq, hlt, hat, habove⟩ :=
        hsound.collapse_of_parent? hrow hexpanded hparent hroot
      exact ⟨parent, number, _, hparent, heq, hlt, hat, rfl, habove⟩

/-- A disk with one source, in which a class stands in a class. -/
def nestedDisk : Disk :=
  { root := .folder
      [("src", .folder [("a.cs", .file (.text "class A \x7b class B \x7b int x; \x7d \x7d"))])] }

/-- What is read from that source. -/
def nestedProject : Project :=
  Project.addFile nestedDisk (Project.unread nestedDisk "src" "cs" "") "src/a.cs"

/-- Both classes have been expanded and the field is selected. -/
def atField : Browser :=
  ((start nestedProject {} none { folder := "docs" }).pressAll nestedDisk
    [.right, .down, .right, .down]).1

/-- From the field the key to the left leads to the inner class. -/
theorem selection_valid_atField :
    atField.Session ∧ atField.input = none ∧ atField.selected = 2 ∧
      atField.rows.map Row.node = [1, 2, 3] ∧
      ∃ parent number above, atField.project.tree.parent? 3 = some parent ∧
        (atField.press nestedDisk .left).1 = { atField with selected := number } ∧
        number < 2 ∧ atField.rows[number]? = some above ∧ above.node = parent ∧
        above.depth + 1 = 2 := by
  have hload : Project.load nestedDisk "src" "cs" "" = .ok nestedProject := by decide +kernel
  have hsession : atField.Session :=
    (Session.started (.first hload) {} none { folder := "docs" }).pressAll nestedDisk _
  have hinput : atField.input = none := by decide +kernel
  have hselected : atField.selected = 2 := by decide +kernel
  have hrow : atField.selectedRow? =
      some { node := 3, depth := 2, hasChildren := false, isExpanded := false } := by
    decide +kernel
  obtain ⟨-, -, -, -, hkeys⟩ := hsession.selection_valid
  have hleft := ((hkeys hinput nestedDisk).2 _ hrow).2.2 rfl Nat.two_pos
  rw [hselected] at hleft
  exact ⟨hsession, hinput, hselected, by decide +kernel, hleft⟩

end Browser

end DeclAtlas
