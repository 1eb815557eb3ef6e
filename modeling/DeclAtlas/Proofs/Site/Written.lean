import Mathlib
import DeclAtlas.Proofs.Site.Export
import DeclAtlas.Proofs.Storage.Disk

/-!
# What an export leaves on a disk

The requests of an export are fulfilled one after the other, and a later page may be written over an
earlier one.  So a file of the finished disk is the last page planned for its place, or what was
there before; redirecting pages come last and replace nothing.

* `Disk.exists_extends_of_requests`: what one page changes.
* `Disk.Receives`: what the pages of a plan change, for every place at once.
* `Disk.Redirected.gains`: redirecting pages are new files.
* **Theorem** (`Disk.Hosts.carries`): after an export every page can be read by its path, and no
  other file has changed.
-/

namespace DeclAtlas.Disk

/-! ## Pages -/

/-- The page that is meant for a place: of the pages whose paths lead there, the last. -/
def pageAt? (disk : Disk) (plan : List PlannedPage) (place : Place) : Option PlannedPage :=
  plan.reverse.find? fun page => disk.resolve page.path = .ok place

/-- A page in front is meant for a place only if no page behind it is. -/
theorem pageAt?_cons (disk : Disk) (page : PlannedPage) (plan : List PlannedPage) (place : Place) :
    disk.pageAt? (page :: plan) place =
      (disk.pageAt? plan place).or
        (if disk.resolve page.path = .ok place then some page else none) := by
  rw [pageAt?, List.reverse_cons, List.find?_append, pageAt?]
  congr 1
  by_cases hpage : disk.resolve page.path = .ok place
  · rw [if_pos hpage]
    exact List.find?_cons_of_pos (decide_eq_true hpage)
  · rw [if_neg hpage]
    exact List.find?_cons_of_neg (by simpa using hpage)

/-- Where the path of a page leads, a page is meant to be. -/
theorem exists_pageAt? {disk : Disk} {plan : List PlannedPage} {page : PlannedPage} {place : Place}
    (hpage : page ∈ plan) (hplace : disk.resolve page.path = .ok place) :
    ∃ last, disk.pageAt? plan place = some last := by
  rw [← Option.isSome_iff_exists, pageAt?, List.find?_isSome]
  exact ⟨page, List.mem_reverse.2 hpage, decide_eq_true hplace⟩

/-- Which page is meant for a place depends on where the paths lead only. -/
theorem pageAt?_congr {disk other : Disk} {plan : List PlannedPage}
    (h : ∀ page ∈ plan, disk.resolve page.path = other.resolve page.path) (place : Place) :
    disk.pageAt? plan place = other.pageAt? plan place := by
  induction plan with
  | nil => rfl
  | cons page plan ih =>
      rw [List.forall_mem_cons] at h
      rw [pageAt?_cons, pageAt?_cons, ih h.2, h.1]

/-- A request for folders changes no file. -/
theorem extends_of_fulfil_folders {disk after : Disk} {path : Path}
    (h : disk.fulfil (.folders path) = .ok after) : disk.Extends after [] := by
  rw [fulfil] at h
  rcases hmade : (disk.makeFolders path).2 with fault | _
  · rw [hmade] at h
    cases h
  · rw [hmade] at h
    cases h
    exact disk.extends_makeFolders path

/-- **One page** changes one file: the one that its path leads to afterwards. -/
theorem exists_extends_of_requests {disk after : Disk} {page : PlannedPage}
    (h : disk.fulfilAll page.requests = .ok after) :
    ∃ place, after.resolve page.path = .ok place ∧
      after.file? place = some (.text page.content) ∧ disk.Extends after [place] := by
  rw [PlannedPage.requests, fulfilAll_append_eq_ok_iff] at h
  obtain ⟨middle, hfolders, hfile⟩ := h
  have hmade : disk.Extends middle [] := by
    rcases hparent : page.path.parent? with _ | parent
    · rw [hparent] at hfolders
      cases hfolders
      exact .refl disk
    · rw [hparent, Option.map_some, Option.toList_some, fulfilAll_singleton] at hfolders
      exact extends_of_fulfil_folders hfolders
  rw [fulfilAll_singleton] at hfile
  obtain ⟨place, hresolve, hcontent, hwritten, -⟩ := exists_extends_of_write hfile
  exact ⟨place, hresolve, hcontent, hmade.trans hwritten⟩

/-- **What the pages of a plan change**: every path that led somewhere leads there still, the path
of every page leads somewhere, and each file is the page meant for its place, or what it was if no
page is meant for it. -/
structure Receives (disk : Disk) (plan : List PlannedPage) (final : Disk) : Prop where
  /-- Paths lead where they led. -/
  resolve : ∀ path place, disk.resolve path = .ok place → final.resolve path = .ok place
  /-- Every page has a place. -/
  arrives : ∀ page ∈ plan, ∃ place, final.resolve page.path = .ok place
  /-- The files behind the pages. -/
  file : ∀ place, final.file? place =
    ((final.pageAt? plan place).map fun page => Content.text page.content).or (disk.file? place)

/-- **Writing the pages of a plan** one after the other. -/
theorem receives_of_fulfilAll {disk final : Disk} {plan : List PlannedPage}
    (h : disk.fulfilAll (plan.flatMap PlannedPage.requests) = .ok final) :
    disk.Receives plan final := by
  induction plan generalizing disk with
  | nil =>
      cases h
      exact ⟨fun _ _ hpath => hpath, List.forall_mem_nil _, fun _ => rfl⟩
  | cons page plan ih =>
      rw [List.flatMap_cons, fulfilAll_append_eq_ok_iff] at h
      obtain ⟨middle, hpage, hrest⟩ := h
      obtain ⟨place, hresolve, hcontent, hextends⟩ := exists_extends_of_requests hpage
      have hplan := ih hrest
      have harrived := hplan.resolve page.path place hresolve
      refine ⟨?_, List.forall_mem_cons.2 ⟨⟨place, harrived⟩, hplan.arrives⟩, ?_⟩
      · intro path other hpath
        exact hplan.resolve path other (hextends.resolve path other hpath)
      · intro other
        rw [hplan.file, pageAt?_cons]
        rcases final.pageAt? plan other with _ | last
        · -- no page behind is meant for the place, so the first page decides
          by_cases hother : other = place
          · subst hother
            rw [if_pos harrived, hcontent]
            rfl
          · have hne : ¬ final.resolve page.path = .ok other := by
              rw [harrived, Except.ok.injEq]
              exact Ne.symm hother
            rw [if_neg hne, hextends.file other (by simpa using hother)]
            rfl
        · rfl

/-! ## Redirecting pages -/

/-- **Files are added**: every path that led somewhere leads there still, every file holds what it
held, and of the files that were not there something is known. -/
structure Gains (disk after : Disk) (added : Place → Content → Prop) : Prop where
  /-- Paths lead where they led. -/
  resolve : ∀ path place, disk.resolve path = .ok place → after.resolve path = .ok place
  /-- Files hold what they held. -/
  kept : ∀ place content, disk.file? place = some content → after.file? place = some content
  /-- What is known of the others. -/
  new : ∀ place content, disk.file? place = none → after.file? place = some content →
    added place content

theorem Gains.refl (disk : Disk) (added : Place → Content → Prop) : disk.Gains disk added := by
  refine ⟨fun _ _ hpath => hpath, fun _ _ hfile => hfile, ?_⟩
  intro place content hnone hsome
  rw [hnone] at hsome
  cases hsome

/-- A file is the redirecting page of a folder. -/
def IsRedirect (disk : Disk) (extension : Text) (place : Place) (content : Content) : Prop :=
  ∃ visit : Visit, visit.isFolder = true ∧
    disk.resolve (visit.path.join "index.php") = .ok place ∧
    content = .text (Page.redirect (Export.redirectTarget extension visit))

section redirected

variable {extension : Text} {disk final : Disk} {visits : List Visit} {count : Nat}

/-- A file that is written where the path named nothing is a new one. -/
theorem exists_new_of_write {middle : Disk} {path : Path} {content : Content}
    (hmissing : ¬ disk.has path) (h : disk.write path content = .ok middle) :
    ∃ place, middle.resolve path = .ok place ∧ middle.file? place = some content ∧
      disk.file? place = none ∧ disk.Extends middle [place] := by
  obtain ⟨place, hresolve, hcontent, hextends, hbefore⟩ := exists_extends_of_write h
  refine ⟨place, hresolve, hcontent, ?_, hextends⟩
  rw [file?]
  rcases hbefore with hnone | hled
  · rw [hnone]
    rfl
  · rcases hfound : disk.root.at? place with _ | found
    · rfl
    · -- the path would name what is there
      exfalso
      apply hmissing
      have hentry : disk.entry path = .ok found := by
        refine bind_eq_ok_iff.2 ⟨place, hled, ?_⟩
        rw [hfound]
      rw [has, hentry]
      rfl

/-- **Redirecting pages replace nothing.** -/
theorem Redirected.gains (h : Redirected extension disk visits final count) :
    disk.Gains final (final.IsRedirect extension) := by
  induction h with
  | done disk => exact .refl disk _
  | passed settled rest ih => exact ih
  | @written disk middle final visit visits count folder missing page rest ih =>
      obtain ⟨target, htarget, hcontent, hfree, hextends⟩ := exists_new_of_write missing page
      refine ⟨?_, ?_, ?_⟩
      · intro path place hpath
        exact ih.resolve path place (hextends.resolve path place hpath)
      · intro place content hfile
        apply ih.kept
        rw [hextends.file place]
        · exact hfile
        · rw [List.mem_singleton]
          rintro rfl
          rw [hfree] at hfile
          cases hfile
      · intro place content hnone hsome
        by_cases hplace : place = target
        · -- the page that was written for this folder is still there
          subst hplace
          rw [ih.kept place _ hcontent, Option.some.injEq] at hsome
          exact ⟨visit, folder, ih.resolve _ _ htarget, hsome.symm⟩
        · rw [← hextends.file place (by simpa using hplace)] at hnone
          exact ih.new place content hnone hsome

end redirected

/-! ## The whole site -/

/-- **What an export leaves on a disk**, seen from the disk before it. -/
structure Carries (final disk : Disk) (plan : List PlannedPage) (options : ExportOptions) :
    Prop where
  /-- Every page is read by its path: the path leads to a place, and the file there holds the page
  that is meant for the place. -/
  pages : ∀ page ∈ plan, ∃ place last, final.resolve page.path = .ok place ∧
    final.pageAt? plan place = some last ∧ final.readText page.path = .ok last.content
  /-- Other files hold what they held. -/
  kept : ∀ place content, final.pageAt? plan place = none → disk.file? place = some content →
    final.file? place = some content
  /-- Other new files are redirecting pages. -/
  others : ∀ place content, final.pageAt? plan place = none → disk.file? place = none →
    final.file? place = some content →
      options.writeRedirects = true ∧ final.IsRedirect options.extension place content

/-- **An export whose file operations succeed** leaves all its pages on the disk. -/
theorem Hosts.carries {disk final : Disk} {plan : List PlannedPage} {options : ExportOptions}
    {out : Path} {force : Bool} {redirects : Nat}
    (h : disk.Hosts plan options out force final redirects) : final.Carries disk plan options := by
  obtain ⟨written, hwritten, hredirects⟩ := h.pages
  obtain ⟨prepared, hprepared, hpages⟩ := fulfilAll_cons_eq_ok_iff.1 hwritten
  have hmade := extends_of_fulfil_folders hprepared
  have hplan := receives_of_fulfilAll hpages
  have hfile (place : Place) : written.file? place =
      ((written.pageAt? plan place).map fun page => Content.text page.content).or
        (disk.file? place) := by
    rw [hplan.file, hmade.file place List.not_mem_nil]
  have hgains : written.Gains final fun place content =>
      options.writeRedirects = true ∧ final.IsRedirect options.extension place content := by
    split_ifs at hredirects with hwanted
    · have hadded := hredirects.2.gains
      exact ⟨hadded.resolve, hadded.kept, fun place content hnone hsome =>
        ⟨hwanted, hadded.new place content hnone hsome⟩⟩
    · rw [hredirects.1]
      exact .refl written _
  have hsame (place : Place) : final.pageAt? plan place = written.pageAt? plan place := by
    refine pageAt?_congr (fun page hpage => ?_) place
    obtain ⟨arrived, harrived⟩ := hplan.arrives page hpage
    rw [harrived, hgains.resolve page.path arrived harrived]
  refine ⟨?_, ?_, ?_⟩
  · intro page hpage
    obtain ⟨place, hplace⟩ := hplan.arrives page hpage
    obtain ⟨last, hlast⟩ := exists_pageAt? hpage hplace
    have hresolve := hgains.resolve page.path place hplace
    have hcontent : written.file? place = some (.text last.content) := by
      rw [hfile, hlast]
      rfl
    exact ⟨place, last, hresolve, hsame place ▸ hlast,
      readText_eq_ok_iff.2 ⟨place, hresolve, hgains.kept place _ hcontent⟩⟩
  · intro place content hnone hold
    apply hgains.kept
    rw [hfile, ← hsame, hnone, hold]
    rfl
  · intro place content hnone hold hsome
    refine hgains.new place content ?_ hsome
    rw [hfile, ← hsame, hnone, hold]
    rfl

end DeclAtlas.Disk
