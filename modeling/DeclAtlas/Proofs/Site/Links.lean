import Mathlib
import DeclAtlas.Proofs.Page.Table
import DeclAtlas.Proofs.Site.Report
import DeclAtlas.Proofs.Storage.Path

/-!
# The links of a site

A page lists the documented children of its node and links those that have pages of their own.  The
texts of the links are made from the places of two pages; here they are followed again, from the
folder of the page and component by component (`PlannedPage.resolve?`).

**Theorem** (`Tree.WellFormed.exportTo_linked`): if an export succeeds, its site is complete and
linked (`Tree.Linked`).  Each page lists what it should, each link leads to the page of the child
that it stands at, and every page but the index is linked once.  The files that the links lead to
are on the disk (`Disk.Follows`).

What makes the links work is that the page and the pages below it share the beginnings of their
paths (`Tree.WellFormed.exists_parent?_siteFile`).  That needs the name of the page's file to be a
proper one, and no other can be written.
-/

namespace DeclAtlas

/-- Where a link that is written on a page leads: from the folder of the page, component by
component. -/
def PlannedPage.resolve? (page : PlannedPage) (link : Text) : Option (List Path.Component) := do
  let href ← Markup.unescape? link
  let folder ← page.path.parent?
  some (folder.join { text := href }).components

/-- Every link on a page can be followed on a disk: it leads to the file of a page of the plan, and
what is read from that file is the page that is meant for its place. -/
def Disk.Follows (disk : Disk) (plan : List PlannedPage) (page : PlannedPage) : Prop :=
  ∀ link ∈ Page.hrefs page.content, ∃ target ∈ plan,
    page.resolve? link = some target.path.components ∧
    ∃ place last, disk.resolve target.path = .ok place ∧ disk.pageAt? plan place = some last ∧
      disk.readText target.path = .ok last.content

namespace Tree

/-- Whether a node is documented. -/
def isListed (tree : Tree) (id : NodeId) : Bool :=
  (tree.element? id).any fun element => element.exportable

/-- The documented children of a kind, in their order. -/
def listed (tree : Tree) (id : NodeId) (kind : Kind) : List NodeId :=
  ((tree.children id).filter tree.isListed).filter fun child => tree.kind? child = some kind

/-- A row of a page stands for a child: it has its declaration, and exactly if the child is a
container a link, which leads to the page of the child. -/
structure Shows (tree : Tree) (plan : List PlannedPage) (page : PlannedPage) (child : NodeId)
    (row : Page.Row) : Prop where
  declaration : ∃ element, tree.element? child = some element ∧
    Markup.unescape? row.declaration = some (Page.signature element)
  linked : row.link.isSome ↔ tree.isContainer child
  leads : ∀ link, row.link = some link → ∃ target ∈ plan, target.node = child ∧
    page.resolve? link = some target.path.components

/-- A page is complete: its tables are those of the kinds of which its node has documented children,
their rows are these children, and there are no other links on the page. -/
structure Lists (tree : Tree) (plan : List PlannedPage) (page : PlannedPage) : Prop where
  tables : List.Forall₂
    (fun group table => table.heading = group.2 ∧
      List.Forall₂ (tree.Shows plan page) (tree.listed page.node group.1) table.rows)
    (Page.groups.filter fun group => tree.listed page.node group.1 ≠ []) (Page.tables page.content)
  once : (Page.groups.flatMap fun group => tree.listed page.node group.1).Nodup
  complete : (Page.groups.flatMap fun group => tree.listed page.node group.1).Perm
    ((tree.children page.node).filter tree.isListed)
  hrefs : Page.hrefs page.content =
    (Page.tables page.content).flatMap fun table => table.rows.filterMap Page.Row.link

/-- A site is complete and linked. -/
structure Linked (tree : Tree) (plan : List PlannedPage) : Prop where
  pages : ∀ page ∈ plan, tree.Lists plan page
  /-- The first page is that of the root, and no node has two. -/
  index : plan.head?.map PlannedPage.node = some root
  nodup : (plan.map PlannedPage.node).Nodup
  /-- The containers that are listed on the pages are those of the other pages, each once. -/
  nodes : (plan.flatMap fun page =>
    ((tree.children page.node).filter tree.isListed).filter tree.isContainer).Perm
      (plan.tail.map PlannedPage.node)
  /-- All links of the site lead to the other pages, and to each as often as it is there. -/
  hrefs : (plan.flatMap fun page => (Page.hrefs page.content).map page.resolve?).Perm
    (plan.tail.map fun page => some page.path.components)

/-! ## Children by their kinds -/

/-- Sorting by a key loses no items and repeats none. -/
theorem perm_flatMap_filter {α β : Type} [DecidableEq β] (key : α → β) {values : List β}
    (hvalues : values.Nodup) {items : List α} (hitems : ∀ item ∈ items, key item ∈ values) :
    (values.flatMap fun value => items.filter fun item => key item = value).Perm items := by
  induction values generalizing items with
  | nil =>
      cases items with
      | nil => rfl
      | cons item items => exact absurd (hitems item List.mem_cons_self) List.not_mem_nil
  | cons value values ih =>
      rw [List.nodup_cons] at hvalues
      have hothers : (values.flatMap fun other => items.filter fun item => key item = other) =
          values.flatMap fun other => (items.filter fun item => !decide (key item = value)).filter
            fun item => key item = other := by
        refine List.flatMap_congr fun other hother => ?_
        rw [List.filter_filter]
        refine List.filter_congr fun item _ => ?_
        by_cases hitem : key item = other
        · simp [hitem, (ne_of_mem_of_not_mem hother hvalues.1)]
        · simp [hitem]
      rw [List.flatMap_cons, hothers]
      refine ((ih hvalues.2 fun item hitem => ?_).append_left _).trans (List.filter_append_perm _ _)
      obtain ⟨hmem, hne⟩ := List.mem_filter.1 hitem
      refine (List.mem_cons.1 (hitems item hmem)).resolve_left ?_
      simpa using hne

section children

variable {tree : Tree} (id : NodeId)

/-- Every documented child stands in the group of its kind. -/
theorem perm_listed :
    (Page.groups.flatMap fun group => tree.listed id group.1).Perm
      ((tree.children id).filter tree.isListed) := by
  have hkinds : ∀ kind : Kind, some kind ∈ Page.groups.map fun group => some group.1 := by
    intro kind
    cases kind <;> decide
  have hmem : ∀ child ∈ (tree.children id).filter tree.isListed,
      tree.kind? child ∈ Page.groups.map fun group => some group.1 := by
    intro child hchild
    have hlisted := List.of_mem_filter hchild
    rw [isListed, Option.any_eq_true] at hlisted
    obtain ⟨element, helement, -⟩ := hlisted
    rw [kind?, helement]
    exact hkinds element.kind
  have hperm := perm_flatMap_filter tree.kind?
    (by decide : (Page.groups.map fun group => some group.1).Nodup) hmem
  rwa [List.flatMap_map] at hperm

/-- The children with pages are the documented containers. -/
theorem pageChildren_eq :
    tree.pageChildren id =
      ((tree.children id).filter tree.isListed).filter tree.isContainer := by
  rw [pageChildren, List.filter_filter]
  refine List.filter_congr fun child _ => ?_
  rw [hasPage, isListed, isContainer]
  cases tree.element? child with
  | none => rfl
  | some element => exact Bool.and_comm _ _

/-- The members that a page lists, as nodes. -/
theorem WellFormed.map_fst_membersOf (h : tree.WellFormed) (kind : Kind) :
    (Page.membersOf kind (tree.branch id).children).map Prod.fst = tree.listed id kind := by
  rw [listed, List.filter_filter, ← List.filterMap_eq_filter, h.children_branch, Page.membersOf,
    List.filterMap_map, List.map_filterMap]
  refine List.filterMap_congr fun child _ => ?_
  rw [Function.comp_apply, element_branch, id_branch]
  rcases helement : tree.element? child with _ | element
  · simp [Option.guard, isListed, helement]
  · by_cases hlisted : element.exportable = true ∧ element.kind = kind <;>
      simp [Option.guard, isListed, kind?, helement, hlisted, and_comm]

/-- The members in a table are documented children with their declarations. -/
theorem WellFormed.of_mem_membersOf (h : tree.WellFormed) {kind : Kind}
    {member : NodeId × Element} (hmember : member ∈ Page.membersOf kind (tree.branch id).children) :
    member.1 ∈ tree.children id ∧ tree.element? member.1 = some member.2 ∧
      member.2.exportable = true := by
  rw [h.children_branch, Page.membersOf, List.filterMap_map, List.mem_filterMap] at hmember
  obtain ⟨child, hchild, hsome⟩ := hmember
  rw [Function.comp_apply, element_branch, id_branch] at hsome
  split at hsome
  case h_1 element helement =>
    split_ifs at hsome with hlisted
    cases hsome
    exact ⟨hchild, helement, hlisted.1⟩
  case h_2 => cases hsome

end children

/-! ## Places of linked pages -/

/-- There is no separator in a stem. -/
theorem notMem_stem (label : Text) : '/' ∉ Page.stem label := by
  intro hmem
  obtain ⟨c, -, hc⟩ := List.mem_map.1 hmem
  unfold Page.stemChar at hc
  split_ifs at hc with hreplaced
  · exact absurd hc (by decide)
  · subst hc
    exact hreplaced (by decide)

/-- There is no separator in the name of a page's file. -/
theorem notMem_fileName {extension : Text} (hextension : '/' ∉ extension) (label : Text) :
    '/' ∉ Page.stem label ++ '.' :: extension := by
  rw [List.mem_append, List.mem_cons]
  rintro (hstem | hdot | hmem)
  · exact notMem_stem label hstem
  · exact absurd hdot (by decide)
  · exact hextension hmem

section places

variable {tree : Tree} (options : ExportOptions) (out : Path) {id : Nat}

/-- The file of a page is in a folder from which the files of the pages below it are reached by
relative paths. -/
theorem WellFormed.exists_siteFile (h : tree.WellFormed) {extension : Text}
    (hextension : '/' ∉ extension) (hid : id < tree.size) :
    ∃ (around : Path) (name : Text),
      tree.siteFile extension out id = around.join { text := name } ∧ '/' ∉ name ∧
      ∀ child ∈ tree.children id, ∃ steps : Path, steps.isAbsolute = false ∧
        (tree.siteFile extension out child).components = (around.join steps).components := by
  have hfile (label : Text) := Path.isAbsolute_of_notMem (notMem_fileName hextension label)
  by_cases hroot : id = root
  · rw [hroot]
    refine ⟨out, _, siteFile_root out extension, ?_,
      fun child hchild => ⟨_, hfile (tree.label child), ?_⟩⟩
    · rw [List.mem_append]
      exact not_or.2 ⟨by decide, hextension⟩
    · rw [h.siteFile_of_mem_children out _ hchild, h.siteFolder_root]
  · obtain ⟨above, habove⟩ := h.exists_mem_children hid hroot
    have hstem := Path.isAbsolute_of_notMem (notMem_stem (tree.label id))
    refine ⟨_, _, h.siteFile_of_mem_children out _ habove, notMem_fileName hextension _,
      fun child hchild => ⟨_, (Path.isAbsolute_join (hfile (tree.label child))).trans hstem, ?_⟩⟩
    rw [h.siteFile_of_mem_children out _ hchild, h.siteFolder_of_mem_children out habove,
      Path.components_join_join _ hstem (hfile _)]

/-- **Links lead to pages**: from the folder of a page, the relative path to a page below it has the
components of that page's file. -/
theorem WellFormed.exists_parent?_siteFile (h : tree.WellFormed) {extension : Text}
    (hextension : '/' ∉ extension) (hid : id < tree.size)
    (hnamed : (tree.siteFile extension out id).IsNamed) :
    ∃ folder, (tree.siteFile extension out id).parent? = some folder ∧
      ∀ child ∈ tree.children id,
        (folder.join { text := (tree.siteFile extension out child).relativeTo folder }).components =
          (tree.siteFile extension out child).components := by
  obtain ⟨around, name, hfile, hplain, hbelow⟩ := h.exists_siteFile out hextension hid
  obtain ⟨last, hlast, hproper⟩ := hnamed
  rw [hfile, Path.getLast?_pieces_join around hplain, Option.some.injEq] at hlast
  have hspeaks : (Path.Component.ofPiece? name).isSome = true := by
    rw [hlast, hproper]
    rfl
  obtain ⟨folder, hparent, hcomponents, hempty⟩ := Path.exists_parent?_join around hplain hspeaks
  refine ⟨folder, hfile ▸ hparent, fun child hchild => ?_⟩
  obtain ⟨steps, hsteps, htarget⟩ := hbelow child hchild
  exact Path.components_join_relativeTo hcomponents hempty hsteps htarget

/-- The links on a page, by the nodes that they lead to. -/
theorem WellFormed.links_branch (h : tree.WellFormed) (extension : Text) (id : NodeId) :
    (tree.branch id).links extension (tree.siteFile extension out id) (tree.siteFolder out id) =
      (tree.pageChildren id).map fun child =>
        (child, (tree.siteFile extension out child).relativeTo
          ((tree.siteFile extension out id).parent?.getD (tree.siteFolder out id))) := by
  rw [Branch.links, h.pageChildren_branch, List.map_map]
  refine List.map_congr_left fun child hchild => ?_
  rw [Function.comp_apply, id_branch, Branch.pageFile, label_branch,
    h.siteFile_of_mem_children out _ ((tree.pageChildren_sublist id).subset hchild)]

end places

/-! ## Pages of a site -/

section site

variable {tree : Tree} {options : ExportOptions} {out : Path}

/-- The page of a node is about the node. -/
@[simp] theorem node_sitePage (id : NodeId) : (tree.sitePage options out id).node = id :=
  id_branch id

/-- A child with a page has it in the plan, if its parent has. -/
theorem WellFormed.mem_pageOrder_of_mem_pageChildren (h : tree.WellFormed) {id child : Nat}
    (hid : id ∈ tree.pageOrder options out root) (hchild : child ∈ tree.pageChildren id) :
    child ∈ tree.pageOrder options out root := by
  have hmem := (tree.pageChildren_sublist id).subset hchild
  have hne : child ≠ root := Nat.ne_of_gt (h.child id child hmem).1
  exact ((h.isPreorder_pageOrder options out).mem_iff_of_mem_children h
    (fun id => (tree.pageChildren_sublist id).subset) hmem hne).2 ⟨hid, hchild⟩

/-- The row of a documented child is as it should be. -/
theorem WellFormed.shows_rowOf (h : tree.WellFormed) (hextension : '/' ∉ options.extension)
    {id : Nat} (hid : id ∈ tree.pageOrder options out root)
    (hnamed : (tree.siteFile options.extension out id).IsNamed) {kind : Kind}
    {member : NodeId × Element} (hmember : member ∈ Page.membersOf kind (tree.branch id).children) :
    tree.Shows (tree.plan options out) (tree.sitePage options out id) member.1
      (Page.rowOf member.2 (((tree.branch id).links options.extension
        (tree.siteFile options.extension out id) (tree.siteFolder out id)).lookup member.1)) := by
  obtain ⟨hchild, helement, hexportable⟩ := h.of_mem_membersOf id hmember
  obtain ⟨folder, hparent, hleads⟩ := h.exists_parent?_siteFile out hextension
    (h.lt_size_of_mem_pageOrder options out hid) hnamed
  have hcontainer : member.1 ∈ tree.pageChildren id ↔ tree.isContainer member.1 = true := by
    rw [pageChildren_eq, List.mem_filter, List.mem_filter, isListed, helement]
    simp [hchild, hexportable]
  have hdeclaration : ∃ element, tree.element? member.1 = some element ∧
      Markup.unescape? (Markup.escape (Page.signature member.2)) =
        some (Page.signature element) :=
    ⟨member.2, helement, Markup.unescape?_escape _⟩
  rw [h.links_branch, hparent, Option.getD_some]
  by_cases hpage : member.1 ∈ tree.pageChildren id
  · rw [List.lookup_graph _ hpage]
    refine ⟨hdeclaration, iff_of_true rfl (hcontainer.1 hpage), fun link hlink => ?_⟩
    cases hlink
    refine ⟨tree.sitePage options out member.1, ?_, node_sitePage member.1, ?_⟩
    · rw [h.plan_eq]
      exact List.mem_map_of_mem (h.mem_pageOrder_of_mem_pageChildren hid hpage)
    · rw [PlannedPage.resolve?, Markup.unescape?_escape]
      change (tree.siteFile options.extension out id).parent?.bind _ = _
      rw [hparent]
      exact congrArg some (hleads member.1 hchild)
  · have hnone : ((tree.pageChildren id).map fun child =>
        (child, (tree.siteFile options.extension out child).relativeTo folder)).lookup
          member.1 = none := by
      rw [List.lookup_eq_none_iff, List.forall_mem_map]
      intro child hmem
      rw [bne_iff_ne]
      rintro rfl
      exact hpage hmem
    rw [hnone]
    refine ⟨hdeclaration, iff_of_false Bool.false_ne_true (mt hcontainer.2 hpage), ?_⟩
    rintro link ⟨⟩

/-- The page of a node is complete. -/
theorem WellFormed.lists_sitePage (h : tree.WellFormed) (hextension : '/' ∉ options.extension)
    {id : Nat} (hid : id ∈ tree.pageOrder options out root)
    (hnamed : (tree.siteFile options.extension out id).IsNamed) :
    tree.Lists (tree.plan options out) (tree.sitePage options out id) := by
  have hcontent : (tree.sitePage options out id).content =
      Page.render options (tree.branch id) ((tree.branch id).links options.extension
        (tree.siteFile options.extension out id) (tree.siteFolder out id)) :=
    rfl
  have hgroups : Page.filledGroups (tree.branch id).children =
      Page.groups.filter fun group => tree.listed id group.1 ≠ [] := by
    refine List.filter_congr fun group _ => ?_
    rw [← h.map_fst_membersOf]
    cases Page.membersOf group.1 (tree.branch id).children <;> rfl
  constructor
  · rw [node_sitePage, hcontent, Page.tables_render, hgroups, List.forall₂_map_right_iff,
      List.forall₂_same]
    intro group _
    refine ⟨rfl, ?_⟩
    rw [← h.map_fst_membersOf, List.forall₂_map_left_iff, List.forall₂_map_right_iff,
      List.forall₂_same]
    exact fun member hmember => h.shows_rowOf hextension hid hnamed hmember
  · rw [node_sitePage, (perm_listed id).nodup_iff]
    exact (h.nodup_children id).filter _
  · rw [node_sitePage]
    exact perm_listed id
  · rw [hcontent]
    exact Page.hrefs_render _ _ _

/-- Every page of the plan is the page of its node, in its place. -/
theorem WellFormed.eq_sitePage (h : tree.WellFormed) {page : PlannedPage}
    (hpage : page ∈ tree.plan options out) :
    page.node ∈ tree.pageOrder options out root ∧ page = tree.sitePage options out page.node := by
  rw [h.plan_eq, List.mem_map] at hpage
  obtain ⟨id, hid, rfl⟩ := hpage
  rw [node_sitePage]
  exact ⟨hid, rfl⟩

/-- The links in rows lead to the pages of the containers among the children. -/
theorem WellFormed.map_resolve?_rows (h : tree.WellFormed) {page : PlannedPage}
    {children : List NodeId} {rows : List Page.Row}
    (hrows : List.Forall₂ (tree.Shows (tree.plan options out) page) children rows) :
    (rows.filterMap Page.Row.link).map page.resolve? =
      (children.filter tree.isContainer).map fun child =>
        some (tree.siteFile options.extension out child).components := by
  induction hrows with
  | nil => rfl
  | @cons child row children rows hrow _ ih =>
      rcases hlink : row.link with _ | link
      · have hnot : ¬ tree.isContainer child = true := by
          rw [← hrow.linked, hlink]
          exact Bool.false_ne_true
        rw [List.filterMap_cons_none hlink, List.filter_cons_of_neg hnot, ih]
      · have hcontainer : tree.isContainer child = true := by
          rw [← hrow.linked, hlink]
          rfl
        obtain ⟨target, htarget, hnode, hresolve⟩ := hrow.leads link hlink
        have hpath : target.path = tree.siteFile options.extension out child := by
          rw [(h.eq_sitePage htarget).2, hnode]
          rfl
        rw [List.filterMap_cons_some hlink, List.filter_cons_of_pos hcontainer, List.map_cons,
          List.map_cons, hresolve, hpath, ih]

/-- Items that contribute nothing may be left out. -/
theorem flatMap_filter_ne_nil {α β : Type} [DecidableEq β] (items : List α) (f : α → List β) :
    (items.filter fun item => f item ≠ []).flatMap f = items.flatMap f := by
  induction items with
  | nil => rfl
  | cons item items ih =>
      rw [List.filter_cons, List.flatMap_cons, ← ih]
      split_ifs with hitem
      · rw [List.flatMap_cons]
      · rw [of_not_not (mt decide_eq_true hitem), List.nil_append]

/-- The links of a page lead to the pages of the containers that it lists. -/
theorem WellFormed.map_resolve?_hrefs (h : tree.WellFormed) {page : PlannedPage}
    (hlists : tree.Lists (tree.plan options out) page) :
    ((Page.hrefs page.content).map page.resolve?).Perm
      ((tree.pageChildren page.node).map fun child =>
        some (tree.siteFile options.extension out child).components) := by
  have htables : ((Page.tables page.content).flatMap fun table =>
      table.rows.filterMap Page.Row.link).map page.resolve? =
      ((Page.groups.flatMap fun group => tree.listed page.node group.1).filter
        tree.isContainer).map fun child =>
          some (tree.siteFile options.extension out child).components := by
    have hall := hlists.tables
    rw [← flatMap_filter_ne_nil Page.groups]
    generalize (Page.groups.filter fun group => tree.listed page.node group.1 ≠ []) = groups,
      Page.tables page.content = tables at hall ⊢
    induction hall with
    | nil => rfl
    | cons htable _ ih =>
        rw [List.flatMap_cons, List.map_append, ih, h.map_resolve?_rows htable.2,
          List.flatMap_cons, List.filter_append, List.map_append]
  rw [hlists.hrefs, htables, pageChildren_eq]
  exact (hlists.complete.filter _).map _

/-- **The planned site is complete and linked**, if its files have proper names. -/
theorem WellFormed.linked_plan (h : tree.WellFormed) (hextension : '/' ∉ options.extension)
    (hnamed : ∀ page ∈ tree.plan options out, page.path.IsNamed) :
    tree.Linked (tree.plan options out) := by
  have hplan := h.plan_eq options out
  have horder := h.isPreorder_pageOrder options out
  have hnodes : (tree.plan options out).map PlannedPage.node = tree.pageOrder options out root := by
    rw [hplan, List.map_map]
    exact (List.map_congr_left fun id _ => node_sitePage id).trans (List.map_id' _)
  have hpages : ∀ page ∈ tree.plan options out, tree.Lists (tree.plan options out) page := by
    intro page hpage
    obtain ⟨hid, heq⟩ := h.eq_sitePage hpage
    have hfile := hnamed page hpage
    rw [heq] at hfile ⊢
    exact h.lists_sitePage hextension hid hfile
  have hperm := horder.perm_tail h (fun id => (tree.pageChildren_sublist id).subset) root
  refine ⟨hpages, ?_, ?_, ?_, ?_⟩
  · rw [← List.head?_map, hnodes, horder root]
    rfl
  · rw [hnodes]
    exact h.nodup_pageOrder options out root
  · have hbelow : ((tree.plan options out).flatMap fun page =>
        ((tree.children page.node).filter tree.isListed).filter tree.isContainer) =
        (tree.pageOrder options out root).flatMap tree.pageChildren := by
      rw [← hnodes, List.flatMap_map]
      exact List.flatMap_congr fun page _ => (pageChildren_eq page.node).symm
    rw [hbelow, List.map_tail, hnodes]
    exact hperm
  · have hbelow : ((tree.plan options out).flatMap fun page =>
        (tree.pageChildren page.node).map fun child =>
          some (tree.siteFile options.extension out child).components) =
        ((tree.pageOrder options out root).flatMap tree.pageChildren).map fun child =>
          some (tree.siteFile options.extension out child).components := by
      rw [← hnodes, List.flatMap_map, List.map_flatMap]
    have htail : ((tree.plan options out).tail.map fun page => some page.path.components) =
        (tree.pageOrder options out root).tail.map fun child =>
          some (tree.siteFile options.extension out child).components := by
      rw [hplan, ← List.map_tail, List.map_map]
      rfl
    refine (List.Perm.flatMap_left _ fun page hpage =>
      h.map_resolve?_hrefs (hpages page hpage)).trans ?_
    rw [hbelow, htail]
    exact hperm.map _

end site

/-- On a disk that carries the pages of a linked site, every link can be followed. -/
theorem Linked.follows {tree : Tree} {plan : List PlannedPage} (h : tree.Linked plan)
    {options : ExportOptions} {disk final : Disk} (hcarries : final.Carries disk plan options)
    {page : PlannedPage} (hpage : page ∈ plan) : final.Follows plan page := by
  intro link hlink
  have hmem : page.resolve? link ∈
      plan.flatMap fun page => (Page.hrefs page.content).map page.resolve? :=
    List.mem_flatMap.2 ⟨page, hpage, List.mem_map_of_mem hlink⟩
  obtain ⟨target, htarget, hresolve⟩ := List.mem_map.1 (h.hrefs.subset hmem)
  have hplanned := List.mem_of_mem_tail htarget
  exact ⟨target, hplanned, hresolve.symm, hcarries.pages target hplanned⟩

/-! ## The exported site -/

/-- A page that is written has a proper name. -/
theorem isNamed_of_hosts {plan : List PlannedPage} {options : ExportOptions} {out : Path}
    {force : Bool} {disk final : Disk} {redirects : Nat}
    (hosts : disk.Hosts plan options out force final redirects) {page : PlannedPage}
    (hpage : page ∈ plan) : page.path.IsNamed := by
  obtain ⟨written, hwritten, -⟩ := hosts.pages
  have hrequest : Disk.Request.file page.path page.content ∈
      Disk.Request.folders out :: plan.flatMap PlannedPage.requests := by
    refine List.mem_cons_of_mem _ (List.mem_flatMap.2 ⟨page, hpage, ?_⟩)
    rw [PlannedPage.requests]
    exact List.mem_append_right _ (List.mem_singleton_self _)
  obtain ⟨before, after, hfile⟩ := Disk.exists_fulfil_of_mem hwritten hrequest
  exact Disk.isNamed_of_writeText hfile

/-- **An exported site is complete and linked.**  If an export succeeds, the pages of the plan are
read from their files on the disk that it leaves, each of them lists the documented children of its
node, and the links on it lead to the pages of those that have one, whose files are on that disk. -/
theorem WellFormed.exportTo_linked {tree : Tree} {options : ExportOptions} {out : Path}
    {force : Bool} {disk : Disk} {report : ExportReport} (h : tree.WellFormed)
    (hextension : '/' ∉ options.extension)
    (hreport : (tree.exportTo options out force disk).result = .ok report) :
    (∃ redirects, disk.Hosts ((tree.select root options).plan options out) options out force
      (tree.exportTo options out force disk).disk redirects) ∧
    report.files = ((tree.select root options).plan options out).map PlannedPage.path ∧
    (tree.select root options).Linked ((tree.select root options).plan options out) ∧
    (tree.exportTo options out force disk).disk.Carries disk
      ((tree.select root options).plan options out) options ∧
    ∀ page ∈ (tree.select root options).plan options out,
      (tree.exportTo options out force disk).disk.Follows
        ((tree.select root options).plan options out) page := by
  obtain ⟨final, redirects, hosts, rfl⟩ := exportTo_ok_iff.1 hreport
  have hlinked := (h.select root options).linked_plan hextension
    fun page hpage => isNamed_of_hosts hosts hpage
  rw [exportTo_of_hosts hosts]
  exact ⟨⟨redirects, hosts⟩, rfl, hlinked, hosts.carries, fun page hpage =>
    hlinked.follows hosts.carries hpage⟩

/-- The nested tree is exported as five linked pages, and every link can be followed. -/
theorem exportTo_linked_nested :
    nestedTree.WellFormed ∧ '/' ∉ nestedOptions.extension ∧
      ∃ report, (nestedTree.exportTo nestedOptions "docs" false {}).result = .ok report ∧
        report.files.length = 5 ∧
        (nestedTree.select root nestedOptions).Linked
          ((nestedTree.select root nestedOptions).plan nestedOptions "docs") ∧
        ∀ page ∈ (nestedTree.select root nestedOptions).plan nestedOptions "docs",
          (nestedTree.exportTo nestedOptions "docs" false {}).disk.Follows
            ((nestedTree.select root nestedOptions).plan nestedOptions "docs") page := by
  have hextension : '/' ∉ nestedOptions.extension := by decide
  obtain ⟨-, -, hlinked, -, hfollows⟩ :=
    wellFormed_nestedTree.exportTo_linked hextension result_exportTo_nested
  exact ⟨wellFormed_nestedTree, hextension, _, result_exportTo_nested, rfl, hlinked, hfollows⟩

end Tree

end DeclAtlas
