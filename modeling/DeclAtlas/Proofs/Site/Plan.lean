import Mathlib
import DeclAtlas.Proofs.Site.Selection
import DeclAtlas.Site.Plan

/-!
# The pages of a site

The plan of a site is made by one recursion over a branch, its pages are counted by another.  Both
visit the same nodes (`Branch.length_pages`), and these can be told from the tree:

* the pages stand in the pre-order of the documented containers (`WellFormed.isPreorder_pageOrder`);
* the page of a node and the folder below it lie where the labels on the way down from the root put
  them (`WellFormed.plan_eq`);
* after a selection, the nodes with pages are those that `PageDue` describes by their lineages
  (`WellFormed.mem_pageOrder_select_iff`).
-/

namespace DeclAtlas

/-! ## Counting pages -/

namespace Branch

/-- The pages of branches are those of each branch that has a page, one branch after the other. -/
theorem pagesOfAll_eq (options : ExportOptions) (folder : Path) (branches : List Branch) :
    pagesOfAll options folder branches =
      (branches.filter hasPage).flatMap fun branch =>
        branch.pages options (pageFile options.extension folder branch)
          (pageFolder folder branch) := by
  induction branches with
  | nil => rfl
  | cons branch branches ih =>
      rw [pagesOfAll, ih, List.filter_cons]
      split_ifs
      · rw [List.flatMap_cons]
      · rw [List.nil_append]

mutual

/-- As many pages are planned as are counted. -/
theorem length_pages (options : ExportOptions) (path folder : Path) :
    (branch : Branch) → (branch.pages options path folder).length = branch.countPages
  | node id label element children => by
      rw [pages, List.length_cons, length_pagesOfAll, countPages, Nat.add_comm]

/-- Pages are counted as they are planned. -/
theorem length_pagesOfAll (options : ExportOptions) (folder : Path) :
    (branches : List Branch) →
      (pagesOfAll options folder branches).length = countPagesOfAll branches
  | [] => rfl
  | branch :: branches => by
      rw [pagesOfAll, List.length_append, length_pagesOfAll options folder branches,
        countPagesOfAll]
      split_ifs
      · rw [length_pages]
      · rfl

end

end Branch

namespace Tree

/-! ## Places of pages -/

/-- Whether a node has a page of its own below the page of the node above it. -/
def hasPage (tree : Tree) (id : NodeId) : Bool :=
  (tree.element? id).any fun element => element.exportable && element.kind.isContainer

/-- The nodes directly below that have pages of their own. -/
def pageChildren (tree : Tree) (id : NodeId) : List NodeId :=
  (tree.children id).filter tree.hasPage

/-- The folder for the pages below a node: behind `out`, one step for each label on the way down. -/
def siteFolder (tree : Tree) (out : Path) (id : NodeId) : Path :=
  (tree.lineage id).foldr
    (fun node folder =>
      if node = root then folder else folder.join { text := Page.stem (tree.label node) })
    out

/-- The file of the page of a node. -/
def siteFile (tree : Tree) (extension : Text) (out : Path) (id : NodeId) : Path :=
  if id = root then out.join { text := "index." ++ extension }
  else
    (((tree.parent? id).map (tree.siteFolder out)).getD out).join
      { text := Page.stem (tree.label id) ++ '.' :: extension }

/-- The page of a node in its place. -/
def sitePage (tree : Tree) (options : ExportOptions) (out : Path) (id : NodeId) : PlannedPage :=
  (tree.branch id).page options (tree.siteFile options.extension out id) (tree.siteFolder out id)

/-- The nodes with pages at and below a node, in the order of the plan. -/
def pageOrder (tree : Tree) (options : ExportOptions) (out : Path) (id : NodeId) : List NodeId :=
  ((tree.branch id).pages options (tree.siteFile options.extension out id)
    (tree.siteFolder out id)).map PlannedPage.node

/-- The children with pages are children, in their order. -/
theorem pageChildren_sublist (tree : Tree) (id : NodeId) :
    (tree.pageChildren id).Sublist (tree.children id) :=
  List.filter_sublist

section places

variable {tree : Tree} {id child : NodeId} (options : ExportOptions) (out : Path)

/-- The pages below the root are written into the folder of the site. -/
theorem WellFormed.siteFolder_root (h : tree.WellFormed) : tree.siteFolder out root = out := by
  rw [siteFolder, h.lineage_root]
  rfl

/-- The folder of a child lies in that of its parent, under the stem of its label. -/
theorem WellFormed.siteFolder_of_mem_children (h : tree.WellFormed)
    (hchild : child ∈ tree.children id) :
    tree.siteFolder out child =
      (tree.siteFolder out id).join { text := Page.stem (tree.label child) } := by
  have hne : child ≠ root := Nat.ne_of_gt (h.child id child hchild).1
  rw [siteFolder, h.lineage_of_mem_children hchild, List.foldr_cons, if_neg hne, siteFolder]

/-- The page of the root is the index of the site. -/
theorem siteFile_root (extension : Text) :
    tree.siteFile extension out root = out.join { text := "index." ++ extension } :=
  if_pos rfl

/-- The page of a child is a file in the folder of its parent. -/
theorem WellFormed.siteFile_of_mem_children (h : tree.WellFormed) (extension : Text)
    (hchild : child ∈ tree.children id) :
    tree.siteFile extension out child =
      (tree.siteFolder out id).join
        { text := Page.stem (tree.label child) ++ '.' :: extension } := by
  have hne : child ≠ root := Nat.ne_of_gt (h.child id child hchild).1
  rw [siteFile, if_neg hne, h.mem_children_iff.1 hchild]
  rfl

/-- The branches with pages are those of the nodes with pages. -/
theorem WellFormed.pageChildren_branch (h : tree.WellFormed) (id : NodeId) :
    (tree.branch id).pageChildren = (tree.pageChildren id).map tree.branch := by
  rw [Branch.pageChildren, h.children_branch, List.filter_map, pageChildren]
  congr 2
  funext child
  rw [Function.comp_apply, Branch.hasPage, element_branch, hasPage]

/-- The pages below a node are those of the page itself and of the documented containers in it. -/
theorem WellFormed.pages_branch (h : tree.WellFormed) (id : NodeId) :
    (tree.branch id).pages options (tree.siteFile options.extension out id)
        (tree.siteFolder out id) =
      tree.sitePage options out id ::
        (tree.pageChildren id).flatMap fun child =>
          (tree.branch child).pages options (tree.siteFile options.extension out child)
            (tree.siteFolder out child) := by
  have hfilter := h.pageChildren_branch id
  rw [Branch.pageChildren, h.children_branch] at hfilter
  rw [sitePage]
  conv_lhs => rw [h.branch_eq, Branch.pages, ← h.branch_eq]
  rw [Branch.pagesOfAll_eq, hfilter, List.flatMap_map]
  refine congrArg _ (List.flatMap_congr fun child hchild => ?_)
  have hmem := (tree.pageChildren_sublist id).subset hchild
  rw [Branch.pageFile, Branch.pageFolder, label_branch, h.siteFile_of_mem_children out _ hmem,
    h.siteFolder_of_mem_children out hmem]

/-- The pages of a site stand in the pre-order of the documented containers. -/
theorem WellFormed.isPreorder_pageOrder (h : tree.WellFormed) :
    IsPreorder tree.pageChildren (tree.pageOrder options out) := by
  intro id
  rw [pageOrder, h.pages_branch, List.map_cons, List.map_flatMap, sitePage, Branch.page, id_branch]
  rfl

/-- **The plan** has the page of each node in its place. -/
theorem WellFormed.plan_eq (h : tree.WellFormed) :
    tree.plan options out =
      (tree.pageOrder options out root).map (tree.sitePage options out) := by
  have hpages : ∀ id, (tree.branch id).pages options (tree.siteFile options.extension out id)
      (tree.siteFolder out id) =
        (tree.pageOrder options out id).map (tree.sitePage options out) := by
    refine h.induction_up fun id ih => ?_
    rw [h.pages_branch, h.isPreorder_pageOrder options out id, List.map_cons, List.map_flatMap]
    refine congrArg _ (List.flatMap_congr fun child hchild => ?_)
    exact ih child ((tree.pageChildren_sublist id).subset hchild)
  have hroot := hpages root
  rwa [siteFile_root, h.siteFolder_root] at hroot

/-- No node has two pages. -/
theorem WellFormed.nodup_pageOrder (h : tree.WellFormed) (id : NodeId) :
    (tree.pageOrder options out id).Nodup :=
  (h.isPreorder_pageOrder options out).nodup h tree.pageChildren_sublist id

/-- Every page but the first one is below another page. -/
theorem WellFormed.mem_pageOrder_cases (h : tree.WellFormed)
    (hid : id ∈ tree.pageOrder options out root) :
    id = root ∨ ∃ above ∈ tree.pageOrder options out root, id ∈ tree.pageChildren above := by
  have horder := h.isPreorder_pageOrder options out
  have hsubset (id : NodeId) := (tree.pageChildren_sublist id).subset
  rcases ((horder.mem_iff h hsubset).1 hid).cases_tail with heq | ⟨above, hreach, hmem⟩
  · exact .inl heq
  · exact .inr ⟨above, (horder.mem_iff h hsubset).2 hreach, hmem⟩

/-- Only nodes of the tree have pages. -/
theorem WellFormed.lt_size_of_mem_pageOrder (h : tree.WellFormed)
    (hid : id ∈ tree.pageOrder options out root) : id < tree.size := by
  rcases h.mem_pageOrder_cases options out hid with rfl | ⟨above, -, hmem⟩
  · exact h.size_pos
  · exact h.lt_size_of_mem_children ((tree.pageChildren_sublist above).subset hmem)

end places

/-- A selection moves no page. -/
theorem siteFolder_select (tree : Tree) (options : ExportOptions) (out : Path) (id : NodeId) :
    (tree.select root options).siteFolder out id = tree.siteFolder out id := by
  rw [siteFolder, siteFolder,
    lineage_congr (size_select tree root options) (parent?_select tree root options)]
  simp only [label_select]

/-- A selection does not change where pages are written. -/
theorem siteFile_select (tree : Tree) (options : ExportOptions) (extension : Text) (out : Path)
    (id : NodeId) :
    (tree.select root options).siteFile extension out id = tree.siteFile extension out id := by
  have hfolder : (tree.select root options).siteFolder out = tree.siteFolder out :=
    funext (siteFolder_select tree options out)
  rw [siteFile, siteFile, hfolder, parent?_select, label_select]

/-! ## Which nodes have pages -/

/-- Whether the element of a node is a container. -/
def isContainer (tree : Tree) (id : NodeId) : Bool :=
  (tree.element? id).any fun element => element.kind.isContainer

/-- The node and all nodes around it up to the root are containers of an exported visibility, and
the nodes around it are expanded. -/
def PageDue (tree : Tree) (options : ExportOptions) (id : NodeId) : Prop :=
  ∀ above ∈ tree.lineage id, above ≠ root →
    ∃ element, tree.element? above = some element ∧ element.kind.isContainer ∧
      options.exports element.visibility ∧ (above ≠ id → options.expands element.kind)

section due

variable {tree : Tree} (options : ExportOptions)

/-- The root always has a page. -/
theorem WellFormed.pageDue_root (h : tree.WellFormed) : tree.PageDue options root := by
  intro above habove hne
  rw [h.lineage_root, List.mem_singleton] at habove
  exact absurd habove hne

/-- Whether a page is due, seen from the node above. -/
theorem WellFormed.pageDue_iff (h : tree.WellFormed) {id above : Nat}
    (hid : id ∈ tree.children above) :
    tree.PageDue options id ↔
      tree.isContainer id ∧ tree.isExported options id ∧ tree.PageDue options above ∧
        (above = root ∨ tree.isExpanded options above) := by
  have hroot : id ≠ root := Nat.ne_of_gt (h.child above id hid).1
  have hlt := h.lt_of_mem_children hid
  have hsize := Nat.lt_trans hlt (h.lt_size_of_mem_children hid)
  have hself := h.self_mem_lineage above
  simp only [PageDue, h.lineage_of_mem_children hid, List.forall_mem_cons, isContainer, isExported,
    isExpanded, Option.any_eq_true]
  constructor
  · rintro ⟨hown, habove⟩
    obtain ⟨element, helement, hcontainer, hexports, -⟩ := hown hroot
    refine ⟨⟨element, helement, hcontainer⟩, ⟨element, helement, hexports⟩, ?_, ?_⟩
    · intro x hx hne
      obtain ⟨element, helement, hcontainer, hexports, hexpands⟩ := habove x hx hne
      have hx' : x ≠ id := Nat.ne_of_lt (Nat.lt_of_le_of_lt (h.le_of_mem_lineage hsize hx) hlt)
      exact ⟨element, helement, hcontainer, hexports, fun _ => hexpands hx'⟩
    · by_cases hne : above = root
      · exact .inl hne
      · obtain ⟨element, helement, -, -, hexpands⟩ := habove above hself hne
        exact .inr ⟨element, helement, hexpands (Nat.ne_of_lt hlt)⟩
  · rintro ⟨⟨element, helement, hcontainer⟩, ⟨element', helement', hexports⟩, habove, hexpanded⟩
    cases helement.symm.trans helement'
    refine ⟨fun _ => ⟨element, helement, hcontainer, hexports, fun hne => absurd rfl hne⟩, ?_⟩
    intro x hx hne
    obtain ⟨element, helement, hcontainer, hexports, hexpands⟩ := habove x hx hne
    refine ⟨element, helement, hcontainer, hexports, fun _ => ?_⟩
    by_cases hx' : x = above
    · obtain ⟨element', helement', hexpands'⟩ := hexpanded.resolve_left (hx' ▸ hne)
      cases (hx' ▸ helement).symm.trans helement'
      exact hexpands'
    · exact hexpands hx'

/-- After a selection, the containers among the selected nodes have pages. -/
theorem WellFormed.hasPage_select (h : tree.WellFormed) (id : NodeId) :
    (tree.select root options).hasPage id ↔
      id ∈ tree.selectedBelow options root ∧ tree.isContainer id := by
  rw [hasPage, h.element?_select, isContainer]
  cases tree.element? id <;> simp

/-- **After a selection** a node has a page if one is due. -/
theorem WellFormed.mem_pageOrder_select_iff (h : tree.WellFormed) (out : Path) {id : Nat}
    (hid : id < tree.size) :
    id ∈ (tree.select root options).pageOrder options out root ↔ tree.PageDue options id := by
  have hchosen := h.select root options
  have horder := hchosen.isPreorder_pageOrder options out
  refine h.induction_down (motive := fun id => id ∈ _ ↔ tree.PageDue options id) ?_ ?_ id hid
  · refine iff_of_true ?_ (h.pageDue_root options)
    rw [horder]
    exact List.mem_cons_self
  · intro above id hid ih
    have hne : id ≠ root := Nat.ne_of_gt (h.child above id hid).1
    have hid' : id ∈ (tree.select root options).children above :=
      children_select tree root options above ▸ hid
    -- above a page there is the root or another selected node
    have habove (hdue : tree.PageDue options above) :
        above = root ∨ above ∈ tree.selectedBelow options root := by
      by_cases hroot : above = root
      · exact .inl hroot
      · obtain ⟨_, -, hmem⟩ :=
          (hchosen.mem_pageOrder_cases options out (ih.2 hdue)).resolve_left hroot
        exact .inr ((h.hasPage_select options above).1 (List.mem_filter.1 hmem).2).1
    rw [horder.mem_iff_of_mem_children hchosen
      (fun id => ((tree.select root options).pageChildren_sublist id).subset) hid' hne, ih,
      pageChildren, List.mem_filter, h.hasPage_select, h.mem_selected_iff options hid,
      h.pageDue_iff options hid]
    constructor
    · rintro ⟨hdue, -, ⟨hexported, hexpanded⟩, hcontainer⟩
      exact ⟨hcontainer, hexported, hdue, hexpanded.imp_right And.right⟩
    · rintro ⟨hcontainer, hexported, hdue, hexpanded⟩
      refine ⟨hdue, hid', ⟨hexported, ?_⟩, hcontainer⟩
      rcases habove hdue with hroot | hselected
      · exact .inl hroot
      · exact hexpanded.imp_right fun hexpands => ⟨hselected, hexpands⟩

end due

end Tree

end DeclAtlas
