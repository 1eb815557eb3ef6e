import Mathlib
import DeclAtlas.Project
import DeclAtlas.Proofs.Tree.Change

/-!
# Reading a project again

A project is emptied before its sources are read again, and they are read only if the walk through
its folder gets to the end.  So a walk that ends early leaves the emptied project behind.

* **Theorem** (`Project.Loaded.reload_of_error`): a reload fails only through its walk, and then the
  project has the new symbols, no files, no errors and a tree with only a root.  It is what it was
  before only if it had neither files nor errors and its symbols and its label stay the same.
  Nothing is lost for later: the next reload gives what it would have given without the failure.

What a reload takes from a project is its origin, the folder and the extension.  No step changes
the origin (`sameOrigin_reloads`), and projects of the same origin are the same after a reload
(`SameOrigin.reload_eq`).
-/

namespace DeclAtlas

/-- An extension without its dot has none to lose. -/
theorem bareExtension_bareExtension (extension : Text) :
    bareExtension (bareExtension extension) = bareExtension extension :=
  List.dropWhile_idempotent _ extension

namespace Project

/-- A project of which no source has been read. -/
def unread (disk : Disk) (folder : Path) (extension defines : Text) : Project :=
  { folder, sourceExtension := extension, defines, tree := Tree.ofLabel (disk.rootLabel folder) }

/-- Reads a project again and again, each time from the disk as it is then. -/
def reloads (project : Project) (history : List (Disk × Text)) : Project :=
  history.foldl (fun project (disk, defines) => (reload disk project defines).1) project

/-- Projects that come from reading a folder, with any reloads and any marks since. -/
inductive Loaded : Project → Prop
  /-- The folder has been read for the first time. -/
  | first {disk : Disk} {folder : Path} {extension defines : Text} {project : Project}
      (h : load disk folder extension defines = .ok project) : Loaded project
  /-- The folder has been read again, whether this failed or not. -/
  | again {project : Project} (h : Loaded project) (disk : Disk) (defines : Text) :
      Loaded (reload disk project defines).1
  /-- A node of the tree has been marked, or its mark removed. -/
  | marked {project : Project} (h : Loaded project) (id : NodeId) (flag : Bool) :
      Loaded { project with tree := project.tree.setExportable id flag }

/-! ## Loads and reloads -/

section reading

variable {disk : Disk} {project after : Project} {extension defines : Text}

/-- Reloading reads the folder of the project as if no source had been read. -/
theorem reload_eq (disk : Disk) (project : Project) (defines : Text) :
    reload disk project defines =
      addFiles disk (unread disk project.folder project.sourceExtension defines) :=
  rfl

/-- A project is loaded if its folder is there and all its sources are read. -/
theorem load_eq_ok_iff {folder : Path} : load disk folder extension defines = .ok after ↔
    disk.hasFolder folder = true ∧
      addFiles disk (unread disk folder (bareExtension extension) defines) = (after, .ok ()) := by
  unfold load
  split_ifs with hfolder
  · simp only [unread, hfolder, true_and]
    split
    · rename_i read heq
      rw [heq]
      simp
    · rename_i read error heq
      rw [heq]
      simp
  · simp [hfolder]

/-- Reading fails through the walk alone, and then nothing has been read. -/
theorem addFiles_eq_error_iff {error : AtlasError} : addFiles disk project = (after, .error error) ↔
    (∃ path fault, (disk.walk project.folder).fault = some (path, fault) ∧
      error = .walk project.folder path fault) ∧ after = project := by
  unfold addFiles Disk.sourceFiles
  rcases hfault : (disk.walk project.folder).fault with _ | ⟨path, fault⟩
  · simp [hfault]
  · simp only [hfault, Prod.mk.injEq, Except.error.injEq, Option.some.injEq]
    constructor
    · rintro ⟨rfl, rfl⟩
      exact ⟨⟨path, fault, ⟨rfl, rfl⟩, rfl⟩, rfl⟩
    · rintro ⟨⟨_, _, ⟨rfl, rfl⟩, rfl⟩, rfl⟩
      exact ⟨rfl, rfl⟩

/-- What reading one source keeps, reading all sources keeps. -/
theorem addFiles_induction {P : Project → Prop}
    (hstep : ∀ project path, P project → P (addFile disk project path)) (h : P project) :
    P (addFiles disk project).1 := by
  unfold addFiles
  split
  · exact h
  · exact List.foldlRecOn _ _ h fun read hread path _ => hstep read path hread

end reading

/-! ## Origins -/

/-- The second project is read from the sources of the first. -/
structure SameOrigin (a b : Project) : Prop where
  /-- The same folder. -/
  folder : b.folder = a.folder
  /-- The same extension of sources. -/
  sourceExtension : b.sourceExtension = a.sourceExtension

theorem SameOrigin.refl (project : Project) : SameOrigin project project :=
  ⟨rfl, rfl⟩

/-- The origin is handed on from project to project. -/
theorem SameOrigin.trans {a b c : Project} (h : SameOrigin a b) (h' : SameOrigin b c) :
    SameOrigin a c :=
  ⟨h'.folder.trans h.folder, h'.sourceExtension.trans h.sourceExtension⟩

/-- A reload leaves nothing of a project but its origin. -/
theorem SameOrigin.reload_eq {a b : Project} (h : SameOrigin a b) (disk : Disk) (defines : Text) :
    reload disk b defines = reload disk a defines := by
  rw [Project.reload_eq, Project.reload_eq, h.folder, h.sourceExtension]

section origin

variable (disk : Disk) (project : Project)

/-- Reading a source keeps the origin. -/
theorem sameOrigin_addFile (path : Path) : SameOrigin project (addFile disk project path) := by
  unfold addFile
  split <;> exact ⟨rfl, rfl⟩

/-- Reading all sources keeps the origin. -/
theorem sameOrigin_addFiles : SameOrigin project (addFiles disk project).1 :=
  addFiles_induction (P := SameOrigin project)
    (fun read path hread => hread.trans (sameOrigin_addFile disk read path)) (.refl project)

/-- Reloading keeps the origin. -/
theorem sameOrigin_reload (defines : Text) :
    SameOrigin project (reload disk project defines).1 := by
  have hunread : SameOrigin project
      (unread disk project.folder project.sourceExtension defines) := ⟨rfl, rfl⟩
  exact hunread.trans (sameOrigin_addFiles disk _)

/-- **Any number of reloads** keeps the origin. -/
theorem sameOrigin_reloads (history : List (Disk × Text)) :
    SameOrigin project (project.reloads history) := by
  induction history generalizing project with
  | nil => exact .refl project
  | cons step history ih => exact (sameOrigin_reload step.1 project step.2).trans (ih _)

end origin

/-! ## Projects without sources -/

/-- What holds of all loaded projects. -/
structure Regular (project : Project) : Prop where
  /-- The extension has no dots in front. -/
  extension : bareExtension project.sourceExtension = project.sourceExtension
  /-- What the tree declares comes from a source. -/
  tree : project.files = [] → ∃ label, project.tree = Tree.ofLabel label

/-- A project of which nothing has been read is regular. -/
theorem regular_unread (disk : Disk) (folder : Path) {extension : Text}
    (h : bareExtension extension = extension) (defines : Text) :
    (unread disk folder extension defines).Regular :=
  ⟨h, fun _ => ⟨_, rfl⟩⟩

/-- Reading a source keeps a project regular. -/
theorem Regular.addFile {project : Project} (h : project.Regular) (disk : Disk) (path : Path) :
    (addFile disk project path).Regular := by
  unfold Project.addFile
  split
  · exact ⟨h.extension, h.tree⟩
  · refine ⟨h.extension, fun hfiles => ?_⟩
    simp at hfiles

/-- Reading all sources keeps a project regular. -/
theorem Regular.addFiles {project : Project} (h : project.Regular) (disk : Disk) :
    (addFiles disk project).1.Regular :=
  addFiles_induction (fun _ path hread => hread.addFile disk path) h

/-- **Whatever was read and marked**, a loaded project is regular. -/
theorem Loaded.regular {project : Project} (h : project.Loaded) : project.Regular := by
  induction h with
  | @first disk folder extension defines project h =>
      have hunread := regular_unread disk folder (bareExtension_bareExtension extension) defines
      have hread := (load_eq_ok_iff.1 h).2
      have hregular := hunread.addFiles disk
      rwa [hread] at hregular
  | again _ disk defines ih => exact (regular_unread disk _ ih.extension defines).addFiles disk
  | marked _ id flag ih =>
      refine ⟨ih.extension, fun hfiles => ?_⟩
      obtain ⟨label, hlabel⟩ := ih.tree hfiles
      refine ⟨label, ?_⟩
      rw [hlabel]
      exact Tree.setExportable_ofLabel label id flag

/-- A project is unread exactly if it has neither files nor errors. -/
theorem Regular.eq_unread_iff {project : Project} (h : project.Regular) (disk : Disk)
    (defines : Text) :
    unread disk project.folder project.sourceExtension defines = project ↔
      project.defines = defines ∧ project.files = [] ∧ project.errors = [] ∧
        project.tree.label Tree.root = disk.rootLabel project.folder := by
  constructor
  · intro heq
    rw [← heq]
    exact ⟨rfl, rfl, rfl, rfl⟩
  · rintro ⟨rfl, hfiles, herrors, hlabel⟩
    obtain ⟨label, htree⟩ := h.tree hfiles
    have hroot : label = disk.rootLabel project.folder := by
      rw [← hlabel, htree]
      rfl
    rw [unread, ← hroot, ← htree, ← hfiles, ← herrors]

/-- **A failed reload empties the project.**  It fails only because the walk through the folder ends
early.  Afterwards the project has the new symbols and none of its sources has been read, so it is
as it was only if it had neither files nor errors and its symbols and its label stay the same.
After any further reloads, one more gives what it would give without all of them.  Where there is
the folder and the reload succeeds, this is what loading the folder gives. -/
theorem Loaded.reload_of_error {project after : Project} (h : project.Loaded) {disk : Disk}
    {defines : Text} {error : AtlasError}
    (herror : reload disk project defines = (after, .error error)) :
    (∃ path fault, (disk.walk project.folder).fault = some (path, fault) ∧
        error = .walk project.folder path fault) ∧
      after = unread disk project.folder project.sourceExtension defines ∧
      (after = project ↔ project.defines = defines ∧ project.files = [] ∧ project.errors = [] ∧
        project.tree.label Tree.root = disk.rootLabel project.folder) ∧
      ∀ (history : List (Disk × Text)) (later : Disk) (defines : Text),
        reload later (after.reloads history) defines = reload later project defines ∧
          ∀ again, load later project.folder project.sourceExtension defines = .ok again ↔
            later.hasFolder project.folder = true ∧
              reload later (after.reloads history) defines = (again, .ok ()) := by
  obtain ⟨hwalk, hafter⟩ := addFiles_eq_error_iff.1 herror
  refine ⟨hwalk, hafter, ?_, fun history later defines => ?_⟩
  · rw [hafter]
    exact h.regular.eq_unread_iff disk defines
  · have horigin : SameOrigin project (after.reloads history) := by
      refine SameOrigin.trans ?_ (sameOrigin_reloads after history)
      rw [hafter]
      exact ⟨rfl, rfl⟩
    have hreload := horigin.reload_eq later defines
    refine ⟨hreload, fun again => ?_⟩
    rw [hreload, load_eq_ok_iff, h.regular.extension]
    rfl

/-- A disk with one source. -/
def sourceDisk : Disk :=
  { root := .folder [("src", .folder [("a.cs", .file (.text "class A \x7b \x7d"))])] }

/-- The same disk without the folder of the source. -/
def bareDisk : Disk :=
  sourceDisk.removeAll "src"

/-- What is read from that source. -/
def oneSource : Project :=
  addFile sourceDisk (unread sourceDisk "src" "cs" "") "src/a.cs"

/-- The project of one source is loaded. -/
theorem loaded_oneSource : oneSource.Loaded := by
  have hload : load sourceDisk "src" "cs" "" = .ok oneSource := by decide +kernel
  exact .first hload

/-- The symbols, the files and the tree of a project change although its reload fails. -/
theorem reload_bareDisk :
    load sourceDisk "src" "cs" "" = .ok oneSource ∧ oneSource.files = ["src/a.cs"] ∧
      oneSource.tree.size = 2 ∧
      (reload bareDisk oneSource "X").2 = .error (.walk "src" "src" .notFound) ∧
      (reload bareDisk oneSource "X").1.defines = "X" ∧
      (reload bareDisk oneSource "X").1.files = [] ∧
      (reload bareDisk oneSource "X").1.tree.size = 1 := by
  decide +kernel

/-- Once the folder is back, a reload finds what was lost. -/
theorem reload_of_error_bareDisk :
    oneSource.Loaded ∧
      reload bareDisk oneSource "X" =
        (unread bareDisk "src" "cs" "X", .error (.walk "src" "src" .notFound)) ∧
      unread bareDisk "src" "cs" "X" ≠ oneSource ∧
      reload sourceDisk (unread bareDisk "src" "cs" "X") "" = reload sourceDisk oneSource "" := by
  have herror : reload bareDisk oneSource "X" =
      (unread bareDisk "src" "cs" "X", .error (.walk "src" "src" .notFound)) := by
    decide +kernel
  obtain ⟨-, -, hsame, hlater⟩ := loaded_oneSource.reload_of_error herror
  refine ⟨loaded_oneSource, herror, fun heq => ?_, (hlater [] sourceDisk "").1⟩
  exact absurd (hsame.1 heq).1 (by decide +kernel)

end Project

end DeclAtlas
