import Mathlib
import DeclAtlas.Proofs.Scanner.Growth
import DeclAtlas.Proofs.Site.Plan
import DeclAtlas.Proofs.Site.Written

/-!
# What an export reports

**Theorem** (`Tree.WellFormed.exportTo_report`): an export whose file operations succeed writes the
pages that are due and no others, in pre-order, and reports them: their number is the counted one,
and the progress goes from 0 over the written part of the pages to 100.  Afterwards the pages are
read from their files.

Selecting, counting and writing are three recursions over a tree.  That they visit the same nodes is
`Branch.length_pages` and `Tree.WellFormed.mem_pageOrder_select_iff`, and what is on the disk in the
end is `Disk.Hosts.carries`; what remains here is the arithmetic of progress.
-/

namespace DeclAtlas

/-! ## Progress -/

namespace Progress

/-- The reported percentage never needs its upper bound. -/
theorem wholePercent_eq {written pages : Nat} (hpos : 0 < pages) (hle : written ≤ pages) :
    wholePercent written pages = 100 * written / pages := by
  have hbound : written * 100 / pages ≤ 100 :=
    Nat.div_le_of_le_mul (Nat.mul_le_mul_right 100 hle)
  rw [wholePercent, Nat.max_eq_left hpos, Nat.min_eq_left hbound, Nat.mul_comm]

end Progress

namespace Export

/-- The percents of events are those of both parts. -/
theorem percents_append (first second : List ProgressEvent) :
    ProgressEvent.percents (first ++ second) =
      ProgressEvent.percents first ++ ProgressEvent.percents second :=
  List.filterMap_append

/-- Each page reports how much of the site is written behind it. -/
theorem percents_pageEvents (pages written : Nat) (plan : List PlannedPage) :
    ProgressEvent.percents (pageEvents pages written plan) =
      (List.range' (written + 1) plan.length).map (Progress.wholePercent · pages) := by
  induction plan generalizing written with
  | nil => rfl
  | cons page plan ih =>
      rw [pageEvents_cons, percents_append, ih, List.length_cons, List.range'_succ, List.map_cons]
      rfl

/-- The percentages of a whole export. -/
theorem percents_siteEvents (tree : Tree) (options : ExportOptions) {plan : List PlannedPage}
    (hplan : plan ≠ []) :
    ProgressEvent.percents (siteEvents tree options plan) =
      0 :: ((List.range' 1 plan.length).map fun written => 100 * written / plan.length) ++
        [100] := by
  have hpos : 0 < plan.length := List.length_pos_iff.2 hplan
  have hpages : (List.range' 1 plan.length).map (Progress.wholePercent · plan.length) =
      (List.range' 1 plan.length).map fun written => 100 * written / plan.length := by
    refine List.map_congr_left fun written hwritten => Progress.wholePercent_eq hpos ?_
    rw [List.mem_range'_1] at hwritten
    omega
  have hredirects : ProgressEvent.percents
      (if options.writeRedirects then [.status "Generating index.php fillers..."] else []) =
        [] := by
    split_ifs <;> rfl
  simp only [siteEvents, percents_append, percents_pageEvents, hpages, hredirects, List.append_nil]
  rfl

/-- The written part of the pages grows, and is never more than all of them. -/
theorem pairwise_percents (pages : Nat) :
    (0 :: ((List.range' 1 pages).map fun written => 100 * written / pages) ++ [100]).Pairwise
      (· ≤ ·) := by
  have hbound : ∀ value ∈ (List.range' 1 pages).map fun written => 100 * written / pages,
      value ≤ 100 := by
    intro value hvalue
    obtain ⟨written, hwritten, rfl⟩ := List.mem_map.1 hvalue
    rw [List.mem_range'_1] at hwritten
    exact Nat.div_le_of_le_mul (by rw [Nat.mul_comm]; exact Nat.mul_le_mul_right 100 (by omega))
  have hgrowing : ((List.range' 1 pages).map fun written => 100 * written / pages).Pairwise
      (· ≤ ·) := by
    refine List.Pairwise.map _ (fun a b hab => ?_) List.pairwise_lt_range'
    exact Nat.div_le_div_right (Nat.mul_le_mul_left 100 (Nat.le_of_lt hab))
  rw [List.cons_append, List.pairwise_cons, List.pairwise_append]
  refine ⟨fun _ _ => Nat.zero_le _, hgrowing, List.pairwise_singleton _ _, ?_⟩
  intro value hvalue last hlast
  rw [List.mem_singleton.1 hlast]
  exact hbound value hvalue

end Export

/-! ## The report -/

namespace Tree

variable {tree : Tree} {options : ExportOptions} {out : Path} {force : Bool} {disk final : Disk}
  {redirects : Nat}

/-- A plan has the page of the root at least. -/
theorem plan_ne_nil (tree : Tree) (options : ExportOptions) (out : Path) :
    tree.plan options out ≠ [] := by
  rw [plan]
  rcases tree.branch root with ⟨id, label, element, children⟩
  rw [Branch.pages]
  exact List.cons_ne_nil _ _

/-- **An export reports what it has written.**  If its file operations succeed, it ends with a
report on the pages of the plan.  These are as many as are counted, stand in the pre-order of the
documented containers, and are those of the root and of the containers for which pages are due.  On
the disk that it leaves, each of their files holds the last page planned for its place, and no other
file has changed, redirecting pages apart. -/
theorem WellFormed.exportTo_report (h : tree.WellFormed)
    (hosts : disk.Hosts ((tree.select root options).plan options out) options out force final
      redirects) :
    ∃ report, (tree.exportTo options out force disk).result = .ok report ∧
      (tree.exportTo options out force disk).tree = tree.select root options ∧
      (tree.exportTo options out force disk).disk = final ∧
      final.Carries disk ((tree.select root options).plan options out) options ∧
      report.redirects = redirects ∧
      report.pages = ((tree.select root options).branch root).countPages ∧
      report.files.length = report.pages ∧
      (∃ order, IsPreorder (tree.select root options).pageChildren order ∧
        (tree.select root options).plan options out =
          (order root).map ((tree.select root options).sitePage options out) ∧
        report.files = (order root).map (tree.siteFile options.extension out) ∧
        (order root).Nodup ∧
        ∀ id : Nat, id ∈ order root ↔ id < tree.size ∧ tree.PageDue options id) ∧
      ProgressEvent.percents (tree.exportTo options out force disk).events =
        0 :: ((List.range' 1 report.pages).map fun written => 100 * written / report.pages) ++
          [100] ∧
      (ProgressEvent.percents (tree.exportTo options out force disk).events).Pairwise (· ≤ ·) ∧
      ∀ value ∈ ProgressEvent.percents (tree.exportTo options out force disk).events,
        value ≤ 100 := by
  have hchosen := h.select root options
  have hplan := hchosen.plan_eq options out
  have hpercents := Export.percents_siteEvents (tree.select root options) options
    (plan_ne_nil (tree.select root options) options out)
  have hgrowing := Export.pairwise_percents ((tree.select root options).plan options out).length
  rw [exportTo_of_hosts hosts]
  refine ⟨_, rfl, rfl, rfl, hosts.carries, rfl, Branch.length_pages _ _ _ _, List.length_map _,
    ⟨(tree.select root options).pageOrder options out, hchosen.isPreorder_pageOrder options out,
      hplan, ?_, hchosen.nodup_pageOrder options out root, fun id => ?_⟩,
    hpercents, hpercents ▸ hgrowing, ?_⟩
  · rw [hplan, List.map_map]
    exact List.map_congr_left fun id _ => siteFile_select tree options options.extension out id
  · constructor
    · intro hid
      have hlt : id < tree.size :=
        size_select tree root options ▸ hchosen.lt_size_of_mem_pageOrder options out hid
      exact ⟨hlt, (h.mem_pageOrder_select_iff options out hlt).1 hid⟩
    · rintro ⟨hlt, hdue⟩
      exact (h.mem_pageOrder_select_iff options out hlt).2 hdue
  · -- the last percentage is the greatest one
    intro value hvalue
    rw [hpercents] at hvalue
    rcases List.mem_append.1 hvalue with hvalue | hvalue
    · exact (List.pairwise_append.1 hgrowing).2.2 value hvalue 100 List.mem_cons_self
    · exact Nat.le_of_eq (List.mem_singleton.1 hvalue)

/-- Nested containers, some of them private, and a struct with a class in it. -/
def nestedSource : Text :=
  "namespace N \x7b public class A \x7b public enum E \x7b X \x7d \x7d private " ++
  "class P \x7b public class Q \x7b \x7d \x7d struct S \x7b public class T \x7b \x7d \x7d \x7d"

/-- Options that leave out private elements and members of structs. -/
def nestedOptions : ExportOptions where
  includePublic := true
  includeInternal := true
  includeProtected := true
  includePrivate := false
  expandEnums := true
  expandStructs := false
  showAttributes := true
  extension := "html"
  writeRedirects := true

/-- The tree of the source. -/
def nestedTree : Tree :=
  ((ofLabel "Site").read root {} nestedSource).tree

/-- The nested tree is read from a source. -/
theorem reached_nestedTree : nestedTree.Reached :=
  (Reached.ofLabel "Site").read root (by decide) {} nestedSource

/-- The nested tree is well-formed. -/
theorem wellFormed_nestedTree : nestedTree.WellFormed :=
  reached_nestedTree.wellFormed_and_unmarked.1

/-- The export of the nested tree to an empty disk succeeds. -/
theorem result_exportTo_nested :
    (nestedTree.exportTo nestedOptions "docs" false {}).result = .ok
      { pages := 5
        files := ["docs/index.html", "docs/N.html", "docs/N/A.html", "docs/N/A/E.html",
          "docs/N/S.html"]
        redirects := 3 } := by
  decide +kernel

/-- The nested tree is exported as five pages, which are read back, and the percents go up in
fifths. -/
theorem exportTo_report_nested :
    ∃ final redirects report,
      ({} : Disk).Hosts ((nestedTree.select root nestedOptions).plan nestedOptions "docs")
        nestedOptions "docs" false final redirects ∧
      (nestedTree.exportTo nestedOptions "docs" false {}).result = .ok report ∧
      report.pages = 5 ∧
      report.files = ["docs/index.html", "docs/N.html", "docs/N/A.html", "docs/N/A/E.html",
        "docs/N/S.html"] ∧
      (∀ page ∈ (nestedTree.select root nestedOptions).plan nestedOptions "docs", ∃ place last,
        final.resolve page.path = .ok place ∧
        final.pageAt? ((nestedTree.select root nestedOptions).plan nestedOptions "docs") place =
          some last ∧
        (nestedTree.exportTo nestedOptions "docs" false {}).disk.readText page.path =
          .ok last.content) ∧
      ProgressEvent.percents (nestedTree.exportTo nestedOptions "docs" false {}).events =
        [0, 20, 40, 60, 80, 100, 100] := by
  obtain ⟨final, redirects, hosts, -⟩ := exportTo_ok_iff.1 result_exportTo_nested
  obtain ⟨report, hreport, -, hdisk, hcarries, -, -, -, -, hpercents, -⟩ :=
    wellFormed_nestedTree.exportTo_report hosts
  cases hreport.symm.trans result_exportTo_nested
  rw [hdisk]
  exact ⟨final, redirects, _, hosts, result_exportTo_nested, rfl, rfl, hcarries.pages, hpercents⟩

end Tree

end DeclAtlas
