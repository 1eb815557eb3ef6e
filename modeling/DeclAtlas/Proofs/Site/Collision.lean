import Mathlib
import DeclAtlas.Proofs.Site.Place

/-!
# Pages that share a path

Two pages have the same path if they lie in one folder under one name.  The folder is not always
that of the node above: a label that is a single dot makes no folder of its own, so what is below
it lies one folder further up (`Tree.room`).  The name is the label with some characters replaced,
and `index` for the root (`Tree.pageStem`).  Paths are compared by their components, so a step
upwards is a step like any other.

**Theorem** (`Tree.Reached.files_apart`): the pages of an exported site have different paths if no
two of them have the same name in the same folder (`Tree.PagesApart`); and only then, unless the
folder of the site is the empty path.

A class `index` has the path of the page of the root (`Tree.exportTo_indexTree`).
-/

namespace DeclAtlas

namespace Path

/-- A piece makes its component alone. -/
theorem eq_of_ofPiece?_eq {a b : Text} (ha : (Component.ofPiece? a).isSome)
    (h : Component.ofPiece? a = Component.ofPiece? b) : a = b := by
  obtain ⟨component, hcomponent⟩ := Option.isSome_iff_exists.1 ha
  rw [← text_of_ofPiece? hcomponent, text_of_ofPiece? (h ▸ hcomponent)]

/-- A piece makes a component unless it is empty or a dot. -/
theorem isSome_ofPiece? {piece : Text} (hne : piece ≠ []) (hdot : piece ≠ ".".toList) :
    (Component.ofPiece? piece).isSome := by
  unfold Component.ofPiece?
  rw [if_neg (not_or.2 ⟨hne, hdot⟩)]
  split_ifs <;> rfl

/-- What comes in front of the first separator belongs to the first piece. -/
theorem exists_pieces_append (rest : Text) :
    ∃ first others, ∀ {t : Text}, '/' ∉ t →
      ({ text := t ++ rest } : Path).pieces = (t ++ first) :: others := by
  obtain ⟨first, others, hpieces⟩ := List.exists_cons_of_ne_nil (pieces_ne_nil { text := rest })
  refine ⟨first, others, fun {t} ht => ?_⟩
  induction t with
  | nil => exact hpieces
  | cons c t ih =>
      rw [List.mem_cons, not_or] at ht
      have hc : (c == '/') = false := beq_eq_false_iff_ne.2 (Ne.symm ht.1)
      exact Text.splitWhere_cons_of_not (p := (· == '/')) hc (ih ht.2)

/-- The steps to a file with an extension: one for the name and the beginning of the extension, and
those behind it, which do not depend on the name. -/
theorem exists_steps_fileName (extension : Text) :
    ∃ first others, ∀ {t : Text}, '/' ∉ t → t ≠ [] →
      ∃ component, Component.ofPiece? (t ++ '.' :: first) = some component ∧
        ({ text := t ++ '.' :: extension } : Path).steps = component :: others := by
  obtain ⟨first, others, hpieces⟩ := exists_pieces_append extension
  refine ⟨first, others.filterMap Component.ofPiece?, fun {t} ht hne => ?_⟩
  have hsome : (Component.ofPiece? (t ++ '.' :: first)).isSome := by
    apply isSome_ofPiece?
    · simp
    · intro hdot
      obtain ⟨c, t, rfl⟩ := List.exists_cons_of_ne_nil hne
      simp at hdot
  obtain ⟨component, hcomponent⟩ := Option.isSome_iff_exists.1 hsome
  refine ⟨component, hcomponent, ?_⟩
  have hplain : '/' ∉ t ++ ['.'] := by
    simp [ht]
  have hfile := hpieces hplain
  rw [List.append_assoc, List.append_assoc, List.singleton_append, List.singleton_append] at hfile
  rw [steps, hfile, List.filterMap_cons_some hcomponent]

/-- From the components of paths behind a folder one can tell their steps. -/
theorem steps_eq_of_components_join_eq {folder a b : Path} (ha : a.isAbsolute = false)
    (hb : b.isAbsolute = false)
    (h : (folder.join a).components = (folder.join b).components) : a.steps = b.steps := by
  by_cases hfolder : folder.text = []
  · rw [join_eq_self hfolder, join_eq_self hfolder] at h
    rw [steps_eq_filter ha, steps_eq_filter hb, h]
  · rw [components_join ha hfolder, components_join hb hfolder] at h
    exact List.append_cancel_left h

end Path

namespace Tree

/-! ## Folders -/

/-- Whether there is a folder for what is below a node: the folder of the site for the root, and
none for a label that is a single dot. -/
def hasFolder (tree : Tree) (id : NodeId) : Bool :=
  id == root || tree.label id != ".".toList

/-- The node in whose folder the page of a node lies: the next one above that has a folder. -/
def room (tree : Tree) (id : NodeId) : NodeId :=
  ((tree.lineage id).tail.find? tree.hasFolder).getD root

/-- The name of the page of a node, without extension. -/
def pageStem (tree : Tree) (id : NodeId) : Text :=
  if id = root then "index" else Page.stem (tree.label id)

/-- No two pages are due under one name in one folder. -/
def PagesApart (tree : Tree) (options : ExportOptions) : Prop :=
  ∀ a b : NodeId, a < tree.size → b < tree.size →
    tree.PageDue options a → tree.PageDue options b →
    tree.room a = tree.room b → tree.pageStem a = tree.pageStem b → a = b

section rooms

variable {tree : Tree} {options : ExportOptions}

theorem hasFolder_root (tree : Tree) : tree.hasFolder root = true := rfl

theorem WellFormed.room_root (h : tree.WellFormed) : tree.room root = root := by
  rw [room, h.lineage_root]
  rfl

/-- The room of a child is the node above, or the room of that node. -/
theorem WellFormed.room_of_mem_children (h : tree.WellFormed) {id child : Nat}
    (hid : id < tree.size) (hchild : child ∈ tree.children id) :
    tree.room child = if tree.hasFolder id then id else tree.room id := by
  have hcons : tree.lineage id = id :: (tree.lineage id).tail := by
    by_cases hroot : id = root
    · rw [hroot, h.lineage_root]
      rfl
    · obtain ⟨above, habove⟩ := h.exists_mem_children hid hroot
      rw [h.lineage_of_mem_children habove]
      rfl
  rw [room, h.lineage_of_mem_children hchild, List.tail_cons, hcons, List.find?_cons]
  split_ifs with hfolder
  · rw [hfolder]
    rfl
  · rw [Bool.eq_false_iff.2 hfolder]
    rfl

/-- A room has a folder and is above the node; a page in it has the page of the room above it. -/
theorem WellFormed.room_spec (h : tree.WellFormed) (options : ExportOptions) {id : Nat}
    (hid : id < tree.size) :
    tree.hasFolder (tree.room id) = true ∧ tree.room id ≤ id ∧
      (id ≠ root → tree.room id < id) ∧
      (tree.PageDue options id → tree.PageDue options (tree.room id)) := by
  refine h.induction_down (motive := fun id => tree.hasFolder (tree.room id) = true ∧
    tree.room id ≤ id ∧ (id ≠ root → tree.room id < id) ∧
      (tree.PageDue options id → tree.PageDue options (tree.room id))) ?_ ?_ id hid
  · rw [h.room_root]
    exact ⟨hasFolder_root tree, Nat.le_refl _, fun hne => absurd rfl hne, fun hdue => hdue⟩
  · rintro id child hchild ⟨hfolder, hle, -, hdue⟩
    have hlt := h.lt_of_mem_children hchild
    have hup (hchild' : tree.PageDue options child) : tree.PageDue options id :=
      ((h.pageDue_iff options hchild).1 hchild').2.2.1
    rw [h.room_of_mem_children (Nat.lt_trans hlt (h.lt_size_of_mem_children hchild)) hchild]
    split_ifs with hown
    · exact ⟨hown, Nat.le_of_lt hlt, fun _ => hlt, hup⟩
    · have hless := Nat.lt_of_le_of_lt hle hlt
      exact ⟨hfolder, Nat.le_of_lt hless, fun _ => hless, fun hchild' => hdue (hup hchild')⟩

/-- A label that makes no folder makes no step, so a page lies in the folder of its room. -/
theorem WellFormed.folderSteps_room (h : tree.WellFormed) {id : Nat} (hid : id < tree.size) :
    ∀ child ∈ tree.children id, tree.folderSteps (tree.room child) = tree.folderSteps id := by
  refine h.induction_down (motive := fun id => ∀ child ∈ tree.children id,
    tree.folderSteps (tree.room child) = tree.folderSteps id) ?_ ?_ id hid
  · intro child hchild
    have hroot : root < tree.size := h.size_pos
    rw [h.room_of_mem_children hroot hchild, if_pos (hasFolder_root tree)]
  · intro above id hid ih child hchild
    rw [h.room_of_mem_children (h.lt_size_of_mem_children hid) hchild]
    split_ifs with hfolder
    · rfl
    · have hlabel : tree.label id = ".".toList := by
        rw [hasFolder, Bool.or_eq_true, not_or] at hfolder
        simpa using hfolder.2
      have hstem : Page.stem (tree.label id) = ".".toList := (Page.stem_eq_iff rfl).2 hlabel
      rw [ih id hid, h.folderSteps_of_mem_children hid, hstem]
      exact (List.append_nil _).symm

/-- A folder other than that of the site is one step behind the folder around it. -/
theorem Reached.exists_folderSteps (h : tree.Reached) {id : Nat} (hid : id < tree.size)
    (hroot : id ≠ root) (hfolder : tree.hasFolder id = true) :
    ∃ component, Path.Component.ofPiece? (tree.pageStem id) = some component ∧
      tree.folderSteps id = tree.folderSteps (tree.room id) ++ [component] := by
  have hwf := h.wellFormed_and_unmarked.1
  obtain ⟨above, hchild⟩ := hwf.exists_mem_children hid hroot
  have habove := Nat.lt_trans (hwf.lt_of_mem_children hchild) hid
  have hdot : Page.stem (tree.label id) ≠ ".".toList := by
    intro hstem
    rw [hasFolder, Bool.or_eq_true] at hfolder
    simp [hroot, (Page.stem_eq_iff rfl).1 hstem] at hfolder
  obtain ⟨component, hcomponent⟩ := Option.isSome_iff_exists.1
    (Path.isSome_ofPiece? (Page.stem_ne_nil (h.label_ne_nil hroot hid)) hdot)
  refine ⟨component, ?_, ?_⟩
  · rw [pageStem, if_neg hroot]
    exact hcomponent
  · rw [hwf.folderSteps_of_mem_children hchild, hcomponent, hwf.folderSteps_room habove id hchild]
    rfl

/-- If pages are apart, so are folders. -/
theorem Reached.eq_of_folderSteps_eq (h : tree.Reached) (hapart : tree.PagesApart options) :
    ∀ {a b : Nat}, a < tree.size → b < tree.size → tree.hasFolder a = true →
      tree.hasFolder b = true → tree.PageDue options a → tree.PageDue options b →
      tree.folderSteps a = tree.folderSteps b → a = b := by
  have hwf := h.wellFormed_and_unmarked.1
  have hempty : ∀ {id : Nat}, id < tree.size → tree.hasFolder id = true →
      tree.folderSteps id = [] → id = root := by
    intro id hid hfolder hsteps
    by_contra hroot
    obtain ⟨component, -, hown⟩ := h.exists_folderSteps hid hroot hfolder
    rw [hsteps] at hown
    exact List.append_ne_nil_of_right_ne_nil _ (List.cons_ne_nil _ _) hown.symm
  intro a
  -- the rooms of both nodes have smaller numbers
  induction a using Nat.strong_induction_on with
  | _ a ih =>
      intro b ha hb hfa hfb hda hdb hsteps
      by_cases hroot : a = root
      · rw [hroot, hwf.folderSteps_root] at hsteps
        rw [hroot, hempty hb hfb hsteps.symm]
      have hroot' : b ≠ root := by
        rintro rfl
        rw [hwf.folderSteps_root] at hsteps
        exact hroot (hempty ha hfa hsteps)
      obtain ⟨component, hcomponent, hown⟩ := h.exists_folderSteps ha hroot hfa
      obtain ⟨component', hcomponent', hown'⟩ := h.exists_folderSteps hb hroot' hfb
      obtain ⟨hra, -, hlt, hua⟩ := hwf.room_spec options ha
      obtain ⟨hrb, -, hlt', hub⟩ := hwf.room_spec options hb
      rw [hown, hown'] at hsteps
      obtain ⟨hrooms, hlast⟩ := List.append_inj' hsteps rfl
      cases hlast
      have hroom : tree.room a = tree.room b :=
        ih (tree.room a) (hlt hroot) (Nat.lt_trans (hlt hroot) ha)
          (Nat.lt_trans (hlt' hroot') hb) hra hrb (hua hda) (hub hdb) hrooms
      have hstem : tree.pageStem a = tree.pageStem b :=
        Path.eq_of_ofPiece?_eq (hcomponent ▸ rfl) (hcomponent.trans hcomponent'.symm)
      exact hapart a b ha hb hda hdb hroom hstem

end rooms

/-! ## Files -/

section files

variable {tree : Tree} {options : ExportOptions} {out : Path}

/-- There is no separator in the stem of a page. -/
theorem notMem_pageStem (tree : Tree) (id : NodeId) : '/' ∉ tree.pageStem id := by
  unfold pageStem
  split_ifs
  · decide
  · exact notMem_stem _

/-- The stem of a page is not empty. -/
theorem Reached.pageStem_ne_nil (h : tree.Reached) {id : Nat} (hid : id < tree.size) :
    tree.pageStem id ≠ [] := by
  unfold pageStem
  split_ifs with hroot
  · decide
  · exact Page.stem_ne_nil (h.label_ne_nil hroot hid)

/-- The steps to a page are those to its room, and those of its name. -/
theorem WellFormed.siteSteps_eq (h : tree.WellFormed) (extension : Text) {id : Nat}
    (hid : id < tree.size) :
    tree.siteSteps extension id =
      tree.folderSteps (tree.room id) ++
        ({ text := tree.pageStem id ++ '.' :: extension } : Path).steps := by
  by_cases hroot : id = root
  · subst hroot
    rw [siteSteps_root, h.room_root, h.folderSteps_root, pageStem, if_pos rfl]
    rfl
  · obtain ⟨above, hchild⟩ := h.exists_mem_children hid hroot
    have habove := Nat.lt_trans (h.lt_of_mem_children hchild) hid
    rw [h.siteSteps_of_mem_children extension hchild, h.folderSteps_room habove id hchild, pageStem,
      if_neg hroot]

/-- **Pages that are apart** are reached by different steps. -/
theorem Reached.eq_of_siteSteps_eq (h : tree.Reached) (hapart : tree.PagesApart options)
    {extension : Text} {a b : Nat} (ha : a < tree.size) (hb : b < tree.size)
    (hda : tree.PageDue options a) (hdb : tree.PageDue options b)
    (hsteps : tree.siteSteps extension a = tree.siteSteps extension b) : a = b := by
  have hwf := h.wellFormed_and_unmarked.1
  obtain ⟨first, others, hfile⟩ := Path.exists_steps_fileName extension
  obtain ⟨component, hcomponent, hown⟩ := hfile (tree.notMem_pageStem a) (h.pageStem_ne_nil ha)
  obtain ⟨component', hcomponent', hown'⟩ := hfile (tree.notMem_pageStem b) (h.pageStem_ne_nil hb)
  rw [hwf.siteSteps_eq extension ha, hwf.siteSteps_eq extension hb, hown, hown',
    List.append_cons, List.append_cons (tree.folderSteps (tree.room b))] at hsteps
  obtain ⟨hrooms, hlast⟩ := List.append_inj' (List.append_cancel_right hsteps) rfl
  cases hlast
  obtain ⟨hra, hle, -, hua⟩ := hwf.room_spec options ha
  obtain ⟨hrb, hle', -, hub⟩ := hwf.room_spec options hb
  have hroom : tree.room a = tree.room b :=
    h.eq_of_folderSteps_eq hapart (Nat.lt_of_le_of_lt hle ha) (Nat.lt_of_le_of_lt hle' hb) hra hrb
      (hua hda) (hub hdb) hrooms
  have hname : tree.pageStem a ++ '.' :: first = tree.pageStem b ++ '.' :: first :=
    Path.eq_of_ofPiece?_eq (hcomponent ▸ rfl) (hcomponent.trans hcomponent'.symm)
  exact hapart a b ha hb hda hdb hroom (List.append_cancel_right hname)

/-- The pages of a report, by their nodes. -/
theorem WellFormed.files_eq (h : tree.WellFormed) {force : Bool} {disk : Disk}
    {report : ExportReport}
    (hreport : (tree.exportTo options out force disk).result = .ok report) :
    ∃ order : List NodeId, order.Nodup ∧
      report.files = order.map (tree.siteFile options.extension out) ∧
      ∀ id : Nat, id ∈ order ↔ id < tree.size ∧ tree.PageDue options id := by
  have hchosen := h.select root options
  obtain ⟨final, redirects, -, rfl⟩ := exportTo_ok_iff.1 hreport
  refine ⟨(tree.select root options).pageOrder options out root,
    hchosen.nodup_pageOrder options out root, ?_, fun id => ?_⟩
  · rw [hchosen.plan_eq, List.map_map]
    exact List.map_congr_left fun id _ => siteFile_select tree options options.extension out id
  · constructor
    · intro hid
      have hlt : id < tree.size :=
        size_select tree root options ▸ hchosen.lt_size_of_mem_pageOrder options out hid
      exact ⟨hlt, (h.mem_pageOrder_select_iff options out hlt).1 hid⟩
    · rintro ⟨hlt, hdue⟩
      exact (h.mem_pageOrder_select_iff options out hlt).2 hdue

/-- Pages with one path are reached by the same steps. -/
theorem WellFormed.siteSteps_eq_of_same (h : tree.WellFormed) {extension : Text} {a b : Nat}
    (ha : a < tree.size) (hb : b < tree.size)
    (hsame : (tree.siteFile extension out a).components =
      (tree.siteFile extension out b).components) :
    tree.siteSteps extension a = tree.siteSteps extension b := by
  obtain ⟨hfile, hrelative⟩ := h.siteFile_eq extension out ha
  obtain ⟨hfile', hrelative'⟩ := h.siteFile_eq extension out hb
  rw [hfile, hfile'] at hsame
  exact Path.steps_eq_of_components_join_eq hrelative hrelative' hsame

/-- The file of a page lies in its steps behind the folder of the site. -/
theorem WellFormed.components_siteFile (h : tree.WellFormed) (extension : Text)
    (hout : out.text ≠ []) {id : Nat} (hid : id < tree.size) :
    (tree.siteFile extension out id).components =
      out.components ++ tree.siteSteps extension id := by
  obtain ⟨hfile, hrelative⟩ := h.siteFile_eq extension out hid
  rw [hfile]
  exact Path.components_join hrelative hout

/-- **Theorem.** The pages that an export reports have different paths if no two pages are due under
one name in one folder; and only then, unless the folder of the site is the empty path. -/
theorem Reached.files_apart (h : tree.Reached) {force : Bool} {disk : Disk} {report : ExportReport}
    (hreport : (tree.exportTo options out force disk).result = .ok report) :
    (tree.PagesApart options → report.files.Pairwise fun a b => a.same b = false) ∧
      (out.text ≠ [] → (report.files.Pairwise fun a b => a.same b = false) →
        tree.PagesApart options) := by
  have hwf := h.wellFormed_and_unmarked.1
  obtain ⟨order, hnodup, hfiles, hmem⟩ := hwf.files_eq hreport
  rw [hfiles, List.pairwise_map]
  constructor
  · intro hapart
    refine hnodup.imp_of_mem fun {a b} ha hb hne => ?_
    obtain ⟨ha, hda⟩ := (hmem a).1 ha
    obtain ⟨hb, hdb⟩ := (hmem b).1 hb
    rw [Path.same, beq_eq_false_iff_ne]
    intro hsame
    exact hne (h.eq_of_siteSteps_eq hapart ha hb hda hdb (hwf.siteSteps_eq_of_same ha hb hsame))
  · intro hout hdistinct a b ha hb hda hdb hroom hstem
    by_contra hne
    have : Std.Symm fun a b : NodeId => (tree.siteFile options.extension out a).same
        (tree.siteFile options.extension out b) = false := by
      refine ⟨fun a b hab => ?_⟩
      rw [Path.same, beq_eq_false_iff_ne] at hab ⊢
      exact Ne.symm hab
    have hapart := hdistinct.forall ((hmem a).2 ⟨ha, hda⟩) ((hmem b).2 ⟨hb, hdb⟩) hne
    rw [Path.same, beq_eq_false_iff_ne, hwf.components_siteFile _ hout ha,
      hwf.components_siteFile _ hout hb, hwf.siteSteps_eq _ ha, hwf.siteSteps_eq _ hb, hroom,
      hstem] at hapart
    exact hapart rfl

/-- The five pages of the nested tree are written to different files. -/
theorem files_apart_nested :
    nestedTree.Reached ∧
      ∃ report, (nestedTree.exportTo nestedOptions "docs" false {}).result = .ok report ∧
        nestedTree.PagesApart nestedOptions ∧
        report.files.Pairwise fun a b => a.same b = false := by
  obtain ⟨hdistinct, honly⟩ := reached_nestedTree.files_apart result_exportTo_nested
  have hfolder : Path.text "docs" ≠ [] := by decide
  have hapart : nestedTree.PagesApart nestedOptions := honly hfolder (by decide)
  exact ⟨reached_nestedTree, _, result_exportTo_nested, hapart, hdistinct hapart⟩

end files

/-! ## A container in the place of the root -/

/-- A container with the name that the page of the root has. -/
def indexTree : Tree :=
  ((ofLabel "src").read root {} "public class index \x7b\x7d").tree

/-- Its page is written over that of the root. -/
theorem exportTo_indexTree :
    indexTree.Reached ∧
      ∃ report, (indexTree.exportTo (.ofSettings {}) "docs" false {}).result = .ok report ∧
        report.files = ["docs/index.html", "docs/index.html"] ∧
        ¬ report.files.Pairwise fun a b => a.same b = false := by
  have hresult : (indexTree.exportTo (.ofSettings {}) "docs" false {}).result = .ok
      { pages := 2, files := ["docs/index.html", "docs/index.html"], redirects := 0 } := by
    decide +kernel
  refine ⟨(Reached.ofLabel "src").read root (by decide) {} _, _, hresult, rfl, by decide⟩

end Tree

end DeclAtlas
