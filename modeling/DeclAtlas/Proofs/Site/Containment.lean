import Mathlib
import DeclAtlas.Proofs.Site.Place

/-!
# Pages inside and outside of the folder of the site

Pages are put behind the folder of the site, but a label of two dots makes a step upwards.

**Theorem** (`Tree.Reached.up_mem_behind_iff`): the path of a page, taken from the folder of the
site, has a step upwards exactly if a container around the page has two dots for its label, or if
the name of the file itself comes out as two dots.

A source may well declare such a container; its members are then written beside the folder of the
site (`Tree.plan_climbing`).
-/

namespace DeclAtlas

namespace Path

/-- Behind the folder come the steps of the path, and perhaps a dot in front of them. -/
theorem exists_behind?_join (folder : Path) {path : Path} (hpath : path.isAbsolute = false) :
    ∃ rest, (folder.join path).behind? folder = some rest ∧
      rest.filter (· ≠ .here) = path.steps := by
  by_cases hfolder : folder.text = []
  · have hnone : folder.components = [] := by
      obtain ⟨t⟩ := folder
      cases hfolder
      rfl
    refine ⟨path.components, ?_, (steps_eq_filter hpath).symm⟩
    rw [join_eq_self hfolder, behind?, hnone]
    rfl
  · have hcomponents : (folder.join path).components = folder.components ++ path.steps :=
      components_join hpath hfolder
    refine ⟨path.steps, ?_, ?_⟩
    · rw [behind?, hcomponents, if_pos, List.drop_left]
      rw [List.isPrefixOf_iff_prefix]
      exact List.prefix_append _ _
    · rw [steps_eq_filter hpath, List.filter_filter]
      simp

/-- Two dots are the only piece that leads up. -/
theorem ofPiece?_eq_up_iff {piece : Text} :
    Component.ofPiece? piece = some .up ↔ piece = "..".toList := by
  unfold Component.ofPiece?
  split_ifs with hsilent hdots
  · refine iff_of_false nofun ?_
    rintro rfl
    exact absurd hsilent (by decide)
  · exact iff_of_true rfl hdots
  · exact iff_of_false nofun hdots

end Path

namespace Page

/-- The name of a page's file is two dots only if the label is one dot. -/
theorem fileName_eq_dots_iff {label : Text} (hlabel : label ≠ []) {extension : Text} :
    stem label ++ '.' :: extension = "..".toList ↔ label = ".".toList ∧ extension = [] := by
  have hdot : stem label = ".".toList ↔ label = ".".toList := stem_eq_iff rfl
  rw [← hdot]
  obtain ⟨c, rest, hcons⟩ := List.exists_cons_of_ne_nil (stem_ne_nil hlabel)
  rw [hcons]
  constructor
  · intro h
    rcases rest with _ | ⟨d, rest⟩
    · cases h
      exact ⟨rfl, rfl⟩
    · simp at h
  · rintro ⟨h, rfl⟩
    rw [h]
    rfl

end Page

namespace Tree

variable {tree : Tree} {options : ExportOptions} {out : Path}

/-- The folder of a node leads up exactly if a label on the way to it is two dots. -/
theorem WellFormed.up_mem_folderSteps_iff (h : tree.WellFormed) {id : Nat} (hid : id < tree.size) :
    Path.Component.up ∈ tree.folderSteps id ↔
      ∃ above ∈ tree.lineage id, above ≠ root ∧ tree.label above = "..".toList := by
  refine h.induction_down (motive := fun id => Path.Component.up ∈ tree.folderSteps id ↔
    ∃ above ∈ tree.lineage id, above ≠ root ∧ tree.label above = "..".toList) ?_ ?_ id hid
  · rw [h.folderSteps_root, h.lineage_root]
    simp
  · intro id child hchild ih
    have hne : child ≠ root := Nat.ne_of_gt (h.child id child hchild).1
    have hstem : Page.stem (tree.label child) = "..".toList ↔ tree.label child = "..".toList :=
      Page.stem_eq_iff rfl
    rw [h.folderSteps_of_mem_children hchild, List.mem_append, ih, Option.mem_toList,
      Path.ofPiece?_eq_up_iff, hstem, h.lineage_of_mem_children hchild,
      List.exists_mem_cons_iff, or_comm]
    simp [hne]

/-- Where the steps to a page lead upwards. -/
theorem Reached.up_mem_siteSteps_iff (h : tree.Reached) {extension : Text}
    (hextension : '/' ∉ extension) {id : Nat} (hid : id < tree.size) :
    Path.Component.up ∈ tree.siteSteps extension id ↔
      (∃ above ∈ tree.lineage id, above ≠ id ∧ above ≠ root ∧ tree.label above = "..".toList) ∨
        id ≠ root ∧ tree.label id = ".".toList ∧ extension = [] := by
  have hwf := h.wellFormed_and_unmarked.1
  by_cases hroot : id = root
  · have hplain : '/' ∉ ("index." ++ extension : Text) := by
      rw [List.mem_append]
      exact not_or.2 ⟨by decide, hextension⟩
    subst hroot
    rw [siteSteps_root, Path.steps_of_notMem hplain, Option.mem_toList, Path.ofPiece?_eq_up_iff,
      hwf.lineage_root]
    refine iff_of_false nofun ?_
    rintro (⟨above, habove, hne, -⟩ | ⟨hne, -⟩)
    · exact hne (List.mem_singleton.1 habove)
    · exact hne rfl
  · obtain ⟨parent, hchild⟩ := hwf.exists_mem_children hid hroot
    have hparent := hwf.lt_of_mem_children hchild
    have habove : (∃ above ∈ tree.lineage id, above ≠ id ∧ above ≠ root ∧
        tree.label above = "..".toList) ↔
        ∃ above ∈ tree.lineage parent, above ≠ root ∧ tree.label above = "..".toList := by
      rw [hwf.lineage_of_mem_children hchild, List.exists_mem_cons_iff]
      constructor
      · rintro (⟨hne, -⟩ | ⟨above, habove, -, hup⟩)
        · exact absurd rfl hne
        · exact ⟨above, habove, hup⟩
      · rintro ⟨above, habove, hup⟩
        have hle := hwf.le_of_mem_lineage (Nat.lt_trans hparent hid) habove
        exact .inr ⟨above, habove, Nat.ne_of_lt (Nat.lt_of_le_of_lt hle hparent), hup⟩
    rw [hwf.siteSteps_of_mem_children extension hchild, List.mem_append,
      hwf.up_mem_folderSteps_iff (Nat.lt_trans hparent hid), habove,
      Path.steps_of_notMem (notMem_fileName hextension _), Option.mem_toList,
      Path.ofPiece?_eq_up_iff, Page.fileName_eq_dots_iff (h.label_ne_nil hroot hid)]
    simp [hroot]

/-- **Theorem.** Every page lies behind the folder of the site, and the way to it leads upwards
exactly if it passes a container that is labelled with two dots, or if the label of the page is a
dot that the empty extension makes into two. -/
theorem Reached.up_mem_behind_iff (h : tree.Reached) (hextension : '/' ∉ options.extension)
    {page : PlannedPage} (hpage : page ∈ (tree.select root options).plan options out) :
    ∃ rest, page.path.behind? out = some rest ∧
      (Path.Component.up ∈ rest ↔
        (∃ above ∈ tree.lineage page.node, above ≠ page.node ∧ above ≠ root ∧
          tree.label above = "..".toList) ∨
        page.node ≠ root ∧ tree.label page.node = ".".toList ∧ options.extension = []) := by
  have hwf := h.wellFormed_and_unmarked.1
  have hchosen := hwf.select root options
  obtain ⟨hnode, hsite⟩ := hchosen.eq_sitePage hpage
  have hid : page.node < tree.size :=
    size_select tree root options ▸ hchosen.lt_size_of_mem_pageOrder options out hnode
  have hpath : page.path = tree.siteFile options.extension out page.node := by
    rw [← siteFile_select tree options options.extension out]
    exact congrArg PlannedPage.path hsite
  obtain ⟨hfile, hrelative⟩ := hwf.siteFile_eq options.extension out hid
  obtain ⟨rest, hbehind, hsteps⟩ := Path.exists_behind?_join out hrelative
  refine ⟨rest, ?_, ?_⟩
  · rw [hpath, hfile, hbehind]
  · rw [← h.up_mem_siteSteps_iff hextension hid, siteSteps, ← hsteps, List.mem_filter]
    simp

/-! ## A container with two dots for its name -/

/-- A container whose name is two dots, with a container in it. -/
def climbingTree : Tree :=
  ((ofLabel "src").read root {} "public class .. \x7b public class B \x7b\x7d \x7d").tree

/-- The climbing tree is read from a source. -/
theorem reached_climbingTree : climbingTree.Reached :=
  (Reached.ofLabel "src").read root (by decide) {} _

/-- The page of the inner container is planned beside the folder of the site. -/
theorem exists_page_climbing :
    ∃ page ∈ (climbingTree.select root (.ofSettings {})).plan (.ofSettings {}) "docs",
      page.path = "docs/../B.html" := by
  rw [← List.mem_map]
  decide +kernel

/-- The page of the inner container is planned outside of the folder of the site, and an export
writes it there. -/
theorem plan_climbing :
    climbingTree.Reached ∧ '/' ∉ (ExportOptions.ofSettings {}).extension ∧
      (∃ page ∈ (climbingTree.select root (.ofSettings {})).plan (.ofSettings {}) "docs",
        page.path.behind? "docs" = some [.up, .name "B.html"]) ∧
      (climbingTree.exportTo (.ofSettings {}) "docs" false {}).disk.has "B.html" = true := by
  obtain ⟨page, hpage, hpath⟩ := exists_page_climbing
  refine ⟨reached_climbingTree, by decide, ⟨page, hpage, ?_⟩, by decide +kernel⟩
  rw [hpath]
  decide

/-- The page that climbs out of the site has a label of two dots above it. -/
theorem up_mem_behind_iff_climbing :
    climbingTree.Reached ∧ '/' ∉ (ExportOptions.ofSettings {}).extension ∧
      ∃ page ∈ (climbingTree.select root (.ofSettings {})).plan (.ofSettings {}) "docs",
        page.path = "docs/../B.html" ∧
          ∃ above ∈ climbingTree.lineage page.node, above ≠ page.node ∧ above ≠ root ∧
            climbingTree.label above = "..".toList := by
  have hextension : '/' ∉ (ExportOptions.ofSettings {}).extension := by decide
  obtain ⟨page, hpage, hpath⟩ := exists_page_climbing
  refine ⟨reached_climbingTree, hextension, page, hpage, hpath, ?_⟩
  obtain ⟨rest, hbehind, hup⟩ := reached_climbingTree.up_mem_behind_iff hextension hpage
  have hrest : rest = [.up, .name "B.html"] := by
    rw [hpath] at hbehind
    exact Option.some.inj (hbehind.symm.trans (by decide))
  rcases hup.1 (hrest ▸ List.mem_cons_self) with habove | ⟨-, -, hnone⟩
  · exact habove
  · cases hnone

end Tree

end DeclAtlas
