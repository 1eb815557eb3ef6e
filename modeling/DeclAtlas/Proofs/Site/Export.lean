import Mathlib
import DeclAtlas.Proofs.Storage.Path
import DeclAtlas.Site.Export

/-!
# What an export asks of a disk

An export changes the disk by a sequence of requests: folders to be made and files to be written.
`Disk.Request` gives them a name, so that one can say of an export which requests it makes and in
what order, and that they all succeed (`Disk.Hosts`).

**Theorem** (`Tree.exportTo_ok_iff`): an export ends with a report exactly if the disk fulfils the
requests of the planned pages and of the redirecting pages.

Every part of an export has one lemma that says when it completes and in which state.
-/

namespace DeclAtlas

/-! ## Requests -/

namespace Disk

/-- A change that is asked of a disk. -/
inductive Request where
  /-- A folder is to be there, with the folders around it. -/
  | folders (path : Path)
  /-- A file is to hold a text. -/
  | file (path : Path) (content : Text)
  deriving DecidableEq, Repr

/-- The disk after a request, unless it fails. -/
def fulfil (disk : Disk) : Request → Except StorageFault Disk
  | .folders path => (disk.makeFolders path).2.map fun _ => (disk.makeFolders path).1
  | .file path content => disk.writeText path content

/-- The disk after requests that are fulfilled one after the other, unless one fails. -/
def fulfilAll (disk : Disk) (requests : List Request) : Except StorageFault Disk :=
  requests.foldlM fulfil disk

/-- Requests are fulfilled if the first one is and then the other ones are. -/
theorem fulfilAll_cons_eq_ok_iff {disk final : Disk} {request : Request} {requests : List Request} :
    disk.fulfilAll (request :: requests) = .ok final ↔
      ∃ middle, disk.fulfil request = .ok middle ∧ middle.fulfilAll requests = .ok final := by
  rw [fulfilAll, List.foldlM_cons, bind_eq_ok_iff]
  rfl

/-- Requests are fulfilled if both parts are, one after the other. -/
theorem fulfilAll_append_eq_ok_iff {disk final : Disk} {first second : List Request} :
    disk.fulfilAll (first ++ second) = .ok final ↔
      ∃ middle, disk.fulfilAll first = .ok middle ∧ middle.fulfilAll second = .ok final := by
  rw [fulfilAll, List.foldlM_append, bind_eq_ok_iff]
  rfl

/-- One request is fulfilled by itself. -/
theorem fulfilAll_singleton (disk : Disk) (request : Request) :
    disk.fulfilAll [request] = disk.fulfil request := by
  rw [fulfilAll, List.foldlM_cons]
  cases disk.fulfil request <;> rfl

/-- Of requests that are all fulfilled, each one is. -/
theorem exists_fulfil_of_mem {disk final : Disk} {request : Request} {requests : List Request}
    (h : disk.fulfilAll requests = .ok final) (hrequest : request ∈ requests) :
    ∃ before after : Disk, before.fulfil request = .ok after := by
  obtain ⟨front, back, rfl⟩ := List.append_of_mem hrequest
  obtain ⟨before, -, hback⟩ := fulfilAll_append_eq_ok_iff.1 h
  obtain ⟨after, hafter, -⟩ := fulfilAll_cons_eq_ok_iff.1 hback
  exact ⟨before, after, hafter⟩

/-- Whether a path names a folder that holds something. -/
def isFilled (disk : Disk) (path : Path) : Bool :=
  (disk.entry path).toOption.any fun entry => !entry.items.isEmpty

/-- From a disk to the next, each visited folder that has no redirecting page yet is given one; the
number says how many these are. -/
inductive Redirected (extension : Text) : Disk → List Visit → Disk → Nat → Prop
  | done (disk : Disk) : Redirected extension disk [] disk 0
  | passed {disk final : Disk} {visit : Visit} {visits : List Visit} {count : Nat}
      (settled : visit.isFolder → disk.has (visit.path.join "index.php"))
      (rest : Redirected extension disk visits final count) :
      Redirected extension disk (visit :: visits) final count
  | written {disk middle final : Disk} {visit : Visit} {visits : List Visit} {count : Nat}
      (folder : visit.isFolder) (missing : ¬ disk.has (visit.path.join "index.php"))
      (page : disk.fulfil (.file (visit.path.join "index.php")
        (Page.redirect (Export.redirectTarget extension visit))) = .ok middle)
      (rest : Redirected extension middle visits final count) :
      Redirected extension disk (visit :: visits) final (1 + count)

end Disk

/-- What is asked of a disk to write a page: the folder around it, and the page. -/
def PlannedPage.requests (page : PlannedPage) : List Disk.Request :=
  (page.path.parent?.map Disk.Request.folders).toList ++ [.file page.path page.content]

/-- **Every file operation of an export succeeds**, and they lead from the disk to `final`: the
folder for the pages may be used, the pages of the plan are written, and if it is wanted
`redirects` redirecting pages. -/
structure Disk.Hosts (disk : Disk) (plan : List PlannedPage) (options : ExportOptions) (out : Path)
    (force : Bool) (final : Disk) (redirects : Nat) : Prop where
  /-- The folder holds nothing, or that does not matter. -/
  usable : disk.isFilled out → force
  /-- The pages and what comes after them. -/
  pages : ∃ written : Disk,
    disk.fulfilAll (.folders out :: plan.flatMap PlannedPage.requests) = .ok written ∧
      if options.writeRedirects then
        (written.walk out).fault = none ∧
          Disk.Redirected options.extension written (written.walk out).visits final redirects
      else final = written ∧ redirects = 0

/-! ## Parts of an export -/

namespace ExportStep

variable {α β : Type} {run after : ExportRun}

/-- The part of an export ends well: it leads from one run to another and gives a value. -/
def Completes (step : ExportStep α) (run : ExportRun) (value : α) (after : ExportRun) : Prop :=
  step.run run = (.ok value, after)

/-- Two steps complete if the first one does and the second one does from there. -/
theorem completes_bind_iff {step : ExportStep α} {next : α → ExportStep β} {value : β} :
    Completes (step >>= next) run value after ↔
      ∃ result middle, Completes step run result middle ∧
        Completes (next result) middle value after := by
  unfold Completes
  have hbind : (step >>= next).run run =
      ExceptT.bindCont next (step.run run).1 (step.run run).2 := rfl
  rw [hbind]
  constructor
  · intro h
    rcases hstep : step.run run with ⟨_ | result, middle⟩
    · rw [hstep] at h
      cases h
    · rw [hstep] at h
      exact ⟨result, middle, rfl, h⟩
  · rintro ⟨result, middle, hstep, hnext⟩
    rw [hstep]
    exact hnext

/-- Returning a value completes with it and changes nothing. -/
theorem completes_pure_iff {value result : α} :
    Completes (pure value) run result after ↔ result = value ∧ after = run :=
  ⟨fun h => by cases h; exact ⟨rfl, rfl⟩, fun ⟨hvalue, hrun⟩ => by subst hvalue hrun; rfl⟩

/-- Looking at the run completes with it and changes nothing. -/
theorem completes_get_iff {result : ExportRun} :
    Completes get run result after ↔ result = run ∧ after = run :=
  ⟨fun h => by cases h; exact ⟨rfl, rfl⟩, fun ⟨hvalue, hrun⟩ => by subst hvalue hrun; rfl⟩

/-- Replacing the run completes with the new one. -/
theorem completes_set_iff {new : ExportRun} {value : PUnit} :
    Completes (set new) run value after ↔ after = new :=
  ⟨fun h => by cases h; rfl, fun h => by subst h; rfl⟩

/-- Changing the run completes with the changed one. -/
theorem completes_modify_iff {change : ExportRun → ExportRun} {value : PUnit} :
    Completes (modify change) run value after ↔ after = change run :=
  ⟨fun h => by cases h; rfl, fun h => by subst h; rfl⟩

/-- An error completes nothing. -/
theorem not_completes_throw {error : AtlasError} {value : α} :
    ¬ Completes (throw error) run value after := by
  intro h
  cases h

end ExportStep

namespace Export

open ExportStep

variable {run after : ExportRun} {value : Unit}

/-- A status line completes with one more event. -/
theorem completes_status_iff {line : Text} :
    Completes (status line) run value after ↔
      after = { run with events := run.events ++ [.status line] } :=
  completes_modify_iff

/-- A report completes with its events. -/
theorem completes_report_iff {events : List ProgressEvent} :
    Completes (report events) run value after ↔
      after = { run with events := run.events ++ events } :=
  completes_modify_iff

/-- Making folders completes if the request is fulfilled. -/
theorem completes_makeFolders_iff {path : Path} :
    Completes (makeFolders path) run value after ↔
      ∃ disk, run.disk.fulfil (.folders path) = .ok disk ∧ after = { run with disk } := by
  simp only [makeFolders, completes_bind_iff, completes_get_iff, completes_set_iff, Disk.fulfil]
  rcases h : run.disk.makeFolders path with ⟨disk, fault | _⟩
  · constructor
    · rintro ⟨_, _, ⟨rfl, rfl⟩, _, _, rfl, hthrow⟩
      rw [h] at hthrow
      exact absurd hthrow not_completes_throw
    · rintro ⟨_, hok, -⟩
      cases hok
  · constructor
    · rintro ⟨_, _, ⟨rfl, rfl⟩, _, _, rfl, hpure⟩
      rw [h] at hpure
      exact ⟨disk, rfl, (completes_pure_iff.1 hpure).2⟩
    · rintro ⟨_, hok, rfl⟩
      cases hok
      refine ⟨_, _, ⟨rfl, rfl⟩, (), _, rfl, ?_⟩
      rw [h]
      exact completes_pure_iff.2 ⟨rfl, rfl⟩

/-- Writing a file completes if the request is fulfilled. -/
theorem completes_writeFile_iff {path : Path} {content : Text} :
    Completes (writeFile path content) run value after ↔
      ∃ disk, run.disk.fulfil (.file path content) = .ok disk ∧ after = { run with disk } := by
  simp only [writeFile, completes_bind_iff, completes_get_iff, Disk.fulfil]
  rcases h : run.disk.writeText path content with fault | disk
  · constructor
    · rintro ⟨_, _, ⟨rfl, rfl⟩, hthrow⟩
      rw [h] at hthrow
      exact absurd hthrow not_completes_throw
    · rintro ⟨_, hok, -⟩
      cases hok
  · constructor
    · rintro ⟨_, _, ⟨rfl, rfl⟩, hset⟩
      rw [h] at hset
      exact ⟨disk, rfl, completes_set_iff.1 hset⟩
    · rintro ⟨_, hok, rfl⟩
      cases hok
      refine ⟨_, _, ⟨rfl, rfl⟩, ?_⟩
      rw [h]
      exact completes_set_iff.2 rfl

/-- The target is prepared if it holds nothing or may be overwritten, and can be made. -/
theorem completes_prepare_iff {out : Path} {force : Bool} :
    Completes (prepare out force) run value after ↔
      (run.disk.isFilled out → force) ∧
        ∃ disk, run.disk.fulfil (.folders out) = .ok disk ∧ after = { run with disk } := by
  rw [← @completes_makeFolders_iff run after value, prepare, completes_bind_iff]
  simp only [completes_get_iff]
  constructor
  · rintro ⟨_, _, ⟨rfl, rfl⟩, h⟩
    split_ifs at h with hrefused
    · obtain ⟨_, _, hthrow, -⟩ := completes_bind_iff.1 h
      exact absurd hthrow not_completes_throw
    · refine ⟨fun hfilled => ?_, h⟩
      rw [Disk.isFilled] at hfilled
      simpa [hfilled] using hrefused
  · rintro ⟨husable, h⟩
    refine ⟨_, _, ⟨rfl, rfl⟩, ?_⟩
    rw [if_neg]
    · exact h
    · rw [Bool.and_eq_true, Bool.not_eq_true']
      rintro ⟨hfilled, hforce⟩
      rw [husable hfilled] at hforce
      cases hforce

/-- Writing a page completes if its requests are fulfilled, with the events of the page. -/
theorem completes_writePage_iff {pages number : Nat} {page : PlannedPage} :
    Completes (writePage pages number page) run value after ↔
      ∃ disk, run.disk.fulfilAll page.requests = .ok disk ∧
        after = { disk, events := run.events ++ Progress.afterPage page.label number pages } := by
  have hpage {middle : ExportRun} : Completes
      (do writeFile page.path page.content; report (Progress.afterPage page.label number pages))
        middle value after ↔
      ∃ disk, middle.disk.fulfil (.file page.path page.content) = .ok disk ∧
        after =
          { disk, events := middle.events ++ Progress.afterPage page.label number pages } := by
    simp only [completes_bind_iff, completes_writeFile_iff, completes_report_iff]
    constructor
    · rintro ⟨_, _, ⟨disk, hdisk, rfl⟩, rfl⟩
      exact ⟨disk, hdisk, rfl⟩
    · rintro ⟨disk, hdisk, rfl⟩
      exact ⟨(), _, ⟨disk, hdisk, rfl⟩, rfl⟩
  rw [writePage, PlannedPage.requests]
  rcases page.path.parent? with _ | parent
  · rw [hpage]
    simp only [Option.map_none, Option.toList_none, List.nil_append, Disk.fulfilAll_singleton]
  · rw [completes_bind_iff]
    simp only [hpage, completes_makeFolders_iff, Option.map_some, Option.toList_some,
      List.singleton_append, Disk.fulfilAll_cons_eq_ok_iff, Disk.fulfilAll_singleton]
    constructor
    · rintro ⟨_, _, ⟨middle, hmiddle, rfl⟩, disk, hdisk, rfl⟩
      exact ⟨disk, ⟨middle, hmiddle, hdisk⟩, rfl⟩
    · rintro ⟨disk, ⟨middle, hmiddle, hdisk⟩, rfl⟩
      exact ⟨(), _, ⟨middle, hmiddle, rfl⟩, disk, hdisk, rfl⟩

/-- The events of writing the pages of a plan. -/
def pageEvents (pages written : Nat) (plan : List PlannedPage) : List ProgressEvent :=
  (plan.zipIdx (written + 1)).flatMap fun entry =>
    Progress.afterPage entry.1.label entry.2 pages

/-- The events of a page come in front of those of the following pages. -/
theorem pageEvents_cons (pages written : Nat) (page : PlannedPage) (plan : List PlannedPage) :
    pageEvents pages written (page :: plan) =
      Progress.afterPage page.label (written + 1) pages ++ pageEvents pages (written + 1) plan := by
  rw [pageEvents, List.zipIdx_cons, List.flatMap_cons, pageEvents]

/-- Writing the pages completes if the requests of all pages are fulfilled. -/
theorem completes_writePages_iff {pages written : Nat} {plan : List PlannedPage} :
    Completes (writePages pages written plan) run value after ↔
      ∃ disk, run.disk.fulfilAll (plan.flatMap PlannedPage.requests) = .ok disk ∧
        after = { disk, events := run.events ++ pageEvents pages written plan } := by
  induction plan generalizing run written with
  | nil =>
      rw [writePages, completes_pure_iff]
      constructor
      · rintro ⟨-, rfl⟩
        exact ⟨_, rfl, by rw [pageEvents, List.zipIdx_nil, List.flatMap_nil, List.append_nil]⟩
      · rintro ⟨disk, hdisk, rfl⟩
        cases hdisk
        exact ⟨rfl, by rw [pageEvents, List.zipIdx_nil, List.flatMap_nil, List.append_nil]⟩
  | cons page plan ih =>
      simp only [writePages, completes_bind_iff, completes_writePage_iff, ih, List.flatMap_cons,
        Disk.fulfilAll_append_eq_ok_iff, pageEvents_cons, ← List.append_assoc]
      constructor
      · rintro ⟨_, _, ⟨middle, hmiddle, rfl⟩, disk, hdisk, rfl⟩
        exact ⟨disk, ⟨middle, hmiddle, hdisk⟩, rfl⟩
      · rintro ⟨disk, ⟨middle, hmiddle, hdisk⟩, rfl⟩
        exact ⟨(), _, ⟨middle, hmiddle, rfl⟩, disk, hdisk, rfl⟩

/-- Writing redirects completes with the number of redirects that were added. -/
theorem completes_writeRedirectsInto_iff {extension : Text} {visits : List Disk.Visit}
    {count : Nat} :
    Completes (writeRedirectsInto extension visits) run count after ↔
      ∃ disk, Disk.Redirected extension run.disk visits disk count ∧
        after = { run with disk } := by
  induction visits generalizing run after count with
  | nil =>
      rw [writeRedirectsInto, completes_pure_iff]
      constructor
      · rintro ⟨rfl, rfl⟩
        exact ⟨_, .done _, rfl⟩
      · rintro ⟨disk, hdone, rfl⟩
        cases hdone
        exact ⟨rfl, rfl⟩
  | cons visit visits ih =>
      rw [writeRedirectsInto]
      simp only [completes_bind_iff, completes_get_iff]
      constructor
      · rintro ⟨_, _, ⟨rfl, rfl⟩, h⟩
        split_ifs at h with hwanted
        · simp only [completes_bind_iff, completes_writeFile_iff, ih, completes_pure_iff] at h
          obtain ⟨_, _, ⟨middle, hmiddle, rfl⟩, _, _, ⟨disk, hrest, rfl⟩, rfl, rfl⟩ := h
          rw [Bool.and_eq_true, Bool.not_eq_true'] at hwanted
          exact ⟨disk, .written hwanted.1 (Bool.eq_false_iff.1 hwanted.2) hmiddle hrest, rfl⟩
        · obtain ⟨disk, hrest, rfl⟩ := ih.1 h
          refine ⟨disk, .passed (fun hfolder => ?_) hrest, rfl⟩
          rw [hfolder, Bool.true_and, Bool.not_eq_true'] at hwanted
          exact Bool.eq_true_of_not_eq_false hwanted
      · rintro ⟨disk, hredirected, rfl⟩
        refine ⟨_, _, ⟨rfl, rfl⟩, ?_⟩
        cases hredirected with
        | passed hsettled hrest =>
            rw [if_neg]
            · exact ih.2 ⟨disk, hrest, rfl⟩
            · rw [Bool.and_eq_true, Bool.not_eq_true']
              rintro ⟨hfolder, hmissing⟩
              exact Bool.eq_false_iff.1 hmissing (hsettled hfolder)
        | written hfolder hmissing hpage hrest =>
            rw [if_pos]
            · simp only [completes_bind_iff, completes_writeFile_iff, ih, completes_pure_iff]
              exact ⟨(), _, ⟨_, hpage, rfl⟩, _, _, ⟨disk, hrest, rfl⟩, rfl, rfl⟩
            · rw [Bool.and_eq_true, Bool.not_eq_true']
              exact ⟨hfolder, Bool.eq_false_iff.2 hmissing⟩

/-- The redirects are written if the whole target can be walked. -/
theorem completes_writeRedirects_iff {out : Path} {extension : Text} {count : Nat} :
    Completes (writeRedirects out extension) run count after ↔
      (run.disk.walk out).fault = none ∧
        ∃ disk, Disk.Redirected extension run.disk (run.disk.walk out).visits disk count ∧
          after = { run with disk } := by
  simp only [writeRedirects, completes_bind_iff, completes_get_iff,
    completes_writeRedirectsInto_iff]
  constructor
  · rintro ⟨_, _, ⟨rfl, rfl⟩, result, _, ⟨disk, hdisk, rfl⟩, h⟩
    split at h
    · rename_i hnone
      obtain ⟨rfl, rfl⟩ := completes_pure_iff.1 h
      exact ⟨hnone, disk, hdisk, rfl⟩
    · exact absurd h not_completes_throw
  · rintro ⟨hnone, disk, hdisk, rfl⟩
    refine ⟨_, _, ⟨rfl, rfl⟩, count, _, ⟨disk, hdisk, rfl⟩, ?_⟩
    rw [hnone]
    exact completes_pure_iff.2 ⟨rfl, rfl⟩

/-- The events of writing a site. -/
def siteEvents (tree : Tree) (options : ExportOptions) (plan : List PlannedPage) :
    List ProgressEvent :=
  let before : List ProgressEvent :=
    [.percent 0, .status "Selecting nodes to export...",
      .status "Preprocessing nodes to export...",
      .status (Progress.exportingLine (tree.label Tree.root) 0 plan.length)]
  let redirecting : List ProgressEvent :=
    if options.writeRedirects then [.status "Generating index.php fillers..."] else []
  let after : List ProgressEvent := [.status "Finished!", .percent 100]
  before ++ pageEvents plan.length 0 plan ++ redirecting ++ after

/-- Writing a site completes if all pages and, where asked for, all redirects are written. -/
theorem completes_writeSite_iff {tree : Tree} {options : ExportOptions} {out : Path}
    {result : ExportReport} :
    Completes (writeSite tree options out) run result after ↔
      ∃ written : Disk, ∃ final : Disk, ∃ redirects : Nat,
        run.disk.fulfilAll ((tree.plan options out).flatMap PlannedPage.requests) = .ok written ∧
        (if options.writeRedirects then
          (written.walk out).fault = none ∧
            Disk.Redirected options.extension written (written.walk out).visits final redirects
          else final = written ∧ redirects = 0) ∧
        result =
          { pages := (tree.plan options out).length
            files := (tree.plan options out).map PlannedPage.path
            redirects } ∧
        after =
          { disk := final
            events := run.events ++ siteEvents tree options (tree.plan options out) } := by
  simp only [writeSite, completes_bind_iff, completes_report_iff, completes_status_iff,
    completes_writePages_iff, siteEvents]
  by_cases hredirects : options.writeRedirects = true
  · simp only [if_pos hredirects, completes_bind_iff, completes_status_iff,
      completes_writeRedirects_iff, completes_report_iff, completes_pure_iff]
    constructor
    · rintro ⟨_, _, rfl, _, _, rfl, _, _, ⟨written, hwritten, rfl⟩, _, _, rfl, redirects, _,
        ⟨hwalk, final, hfinal, rfl⟩, _, _, rfl, rfl, rfl⟩
      exact ⟨written, final, redirects, hwritten, ⟨hwalk, hfinal⟩, rfl, by simp⟩
    · rintro ⟨written, final, redirects, hwritten, ⟨hwalk, hfinal⟩, rfl, rfl⟩
      refine ⟨(), _, rfl, (), _, rfl, (), _, ⟨written, hwritten, rfl⟩, (), _, rfl, redirects, _,
        ⟨hwalk, final, hfinal, rfl⟩, (), _, rfl, rfl, ?_⟩
      simp
  · simp only [if_neg hredirects, completes_bind_iff, completes_report_iff, completes_pure_iff]
    constructor
    · rintro ⟨_, _, rfl, _, _, rfl, _, _, ⟨written, hwritten, rfl⟩, _, _, ⟨rfl, rfl⟩, _, _, rfl,
        rfl, rfl⟩
      exact ⟨written, written, 0, hwritten, ⟨rfl, rfl⟩, rfl, by simp⟩
    · rintro ⟨_, written, _, hwritten, ⟨rfl, rfl⟩, rfl, rfl⟩
      refine ⟨(), _, rfl, (), _, rfl, (), _, ⟨written, hwritten, rfl⟩, 0, _, ⟨rfl, rfl⟩, (), _, rfl,
        rfl, ?_⟩
      simp

end Export

/-! ## The whole export -/

namespace Tree

open ExportStep

variable {tree : Tree} {options : ExportOptions} {out : Path} {force : Bool} {disk : Disk}

/-- **An export whose file operations succeed** gives a report. -/
theorem exportTo_of_hosts {final : Disk} {redirects : Nat}
    (h : disk.Hosts ((tree.select root options).plan options out) options out force final
      redirects) :
    tree.exportTo options out force disk =
      { result := .ok
          { pages := ((tree.select root options).plan options out).length
            files := ((tree.select root options).plan options out).map PlannedPage.path
            redirects }
        tree := tree.select root options
        disk := final
        events := Export.siteEvents (tree.select root options) options
          ((tree.select root options).plan options out) } := by
  obtain ⟨husable, written, hwritten, hfinal⟩ := h
  obtain ⟨prepared, hprepared, hpages⟩ := Disk.fulfilAll_cons_eq_ok_iff.1 hwritten
  have hprepare : Completes (Export.prepare out force) { disk } () { disk := prepared } :=
    Export.completes_prepare_iff.2 ⟨husable, prepared, hprepared, rfl⟩
  have hsite : Completes (Export.writeSite (tree.select root options) options out)
      { disk := prepared } _ _ :=
    Export.completes_writeSite_iff.2 ⟨written, final, redirects, hpages, hfinal, rfl, rfl⟩
  rw [Completes] at hprepare hsite
  simp only [exportTo, hprepare, hsite, List.nil_append]

/-- **An export gives a report** exactly if all its file operations succeed. -/
theorem exportTo_ok_iff {report : ExportReport} :
    (tree.exportTo options out force disk).result = .ok report ↔
      ∃ final redirects,
        disk.Hosts ((tree.select root options).plan options out) options out force final
          redirects ∧
        report =
          { pages := ((tree.select root options).plan options out).length
            files := ((tree.select root options).plan options out).map PlannedPage.path
            redirects } := by
  constructor
  · intro h
    rcases hprepare : (Export.prepare out force).run { disk } with ⟨_ | _, prepared⟩
    · simp only [exportTo, hprepare] at h
      cases h
    · rcases hsite : (Export.writeSite (tree.select root options) options out).run prepared with
        ⟨result, after⟩
      simp only [exportTo, hprepare, hsite] at h
      subst h
      obtain ⟨husable, made, hmade, rfl⟩ := Export.completes_prepare_iff.1 hprepare
      obtain ⟨written, final, redirects, hpages, hfinal, hreport, -⟩ :=
        Export.completes_writeSite_iff.1 hsite
      exact ⟨final, redirects, ⟨husable, written,
        Disk.fulfilAll_cons_eq_ok_iff.2 ⟨made, hmade, hpages⟩, hfinal⟩, hreport⟩
  · rintro ⟨final, redirects, hhosts, rfl⟩
    rw [exportTo_of_hosts hhosts]

end Tree

end DeclAtlas
