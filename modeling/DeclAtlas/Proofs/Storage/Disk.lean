import Mathlib
import DeclAtlas.Proofs.Storage.Path

/-!
# Reading what was written

Making a folder or writing a file puts one entry into a folder.  What that leaves alone is said once
for all such changes (`Disk.Extends`): paths that led somewhere lead there still, and the files at
other places hold what they held.

* `Entry.lookup_alterItem`: changing one item of a folder leaves the others as they were.
* `Entry.Ordered.content?_put`: putting an entry where no folder was changes no other file.
* `Disk.extends_makeFolders`: making folders changes no file.
* `Disk.exists_extends_of_write`: writing a file changes this file only.
* **Theorem** (`Disk.readText_of_writeText`): a file that was written is read back by its path,
  whatever detours the path takes.
-/

namespace DeclAtlas

namespace Entry

/-! ## Items by their names -/

/-- The first item has its name; the other names are looked up behind it. -/
theorem lookup_cons (name other : Text) (entry : Entry) (items : List (Text × Entry)) :
    ((name, entry) :: items).lookup other =
      if other = name then some entry else items.lookup other := by
  rw [List.lookup_cons]
  split_ifs with heq
  · rw [heq, beq_self_eq_true]
  · rw [beq_eq_false_iff_ne.2 heq]

/-- A name that comes before the first one is not there. -/
theorem Rising.lookup_eq_none {name first : Text} {entry : Entry} {items : List (Text × Entry)}
    (h : Rising ((first, entry) :: items)) (hname : name < first) :
    ((first, entry) :: items).lookup name = none := by
  rw [List.lookup_eq_none_iff]
  intro item hitem
  have hlt : name < item.1 := by
    rcases List.mem_cons.1 hitem with rfl | hitem
    · exact hname
    · exact lt_trans hname (List.rel_of_pairwise_cons h hitem)
  exact bne_iff_ne.2 hlt.ne

/-- Looking up a name behind a change of one item. -/
theorem lookup_alterItem {items : List (Text × Entry)} (h : Rising items) (name other : Text)
    (change : Option Entry → Entry) :
    (alterItem name change items).lookup other =
      if other = name then some (change (items.lookup name)) else items.lookup other := by
  induction items with
  | nil => exact lookup_cons name other _ []
  | cons item items ih =>
      obtain ⟨first, entry⟩ := item
      by_cases hfirst : first = name
      · rw [alterItem, if_pos hfirst, hfirst, lookup_cons, lookup_cons, lookup_cons, if_pos rfl]
        split_ifs <;> rfl
      by_cases hle : Text.le name first = true
      · have hlt := (Text.le_iff.1 hle).resolve_right (Ne.symm hfirst)
        rw [alterItem, if_neg hfirst, if_pos hle, lookup_cons, h.lookup_eq_none hlt]
      · rw [alterItem, if_neg hfirst, if_neg hle, lookup_cons, lookup_cons, lookup_cons,
          ih h.of_cons, if_neg (Ne.symm hfirst)]
        split_ifs with hother hname
        · exact absurd (hother.symm.trans hname) hfirst
        · rfl
        · rfl
        · rfl

/-! ## Entries at places -/

/-- What stands at a name, or the folder that is made there, is in order. -/
theorem Ordered.getD_lookup {entry : Entry} (h : entry.Ordered) (name : Text) :
    ((entry.items.lookup name).getD (.folder [])).Ordered := by
  rcases hlookup : entry.items.lookup name with _ | item
  · exact ordered_folder_nil
  · exact h.of_lookup hlookup

/-- An item that is changed, and the other items. -/
theorem Ordered.at?_put_cons {entry : Entry} (h : entry.Ordered) (new : Entry) (name other : Text)
    (place rest : Place) :
    (Entry.put new (name :: place) entry).at? (other :: rest) =
      if other = name then
        (Entry.put new place ((entry.items.lookup name).getD (.folder []))).at? rest
      else entry.at? (other :: rest) := by
  rw [Entry.put, at?, Entry.items, lookup_alterItem h.items]
  split_ifs with hother
  · rfl
  · rw [at?]

/-- What was put at a place is there. -/
theorem Ordered.at?_put_self {entry : Entry} (h : entry.Ordered) (new : Entry) (place : Place) :
    (Entry.put new place entry).at? place = some new := by
  induction place generalizing entry with
  | nil => rfl
  | cons name place ih =>
      rw [h.at?_put_cons, if_pos rfl]
      exact ih (h.getD_lookup name)

/-- A place is reached by the way to a folder and the way on from there. -/
theorem at?_append (entry : Entry) (front back : Place) :
    entry.at? (front ++ back) = (entry.at? front).bind (·.at? back) := by
  induction front generalizing entry with
  | nil => rfl
  | cons name front ih =>
      rw [List.cons_append, at?, at?]
      cases entry.items.lookup name with
      | none => rfl
      | some item => exact ih item

/-- A folder stays a folder with all its names when an entry is put where no folder was. -/
theorem Ordered.exists_at?_put {entry : Entry} (h : entry.Ordered) (new : Entry) {target : Place}
    (htarget : ∀ items, entry.at? target ≠ some (.folder items)) {place : Place}
    {items : List (Text × Entry)} (hplace : entry.at? place = some (.folder items)) :
    ∃ items', (Entry.put new target entry).at? place = some (.folder items') ∧
      ∀ name, (items.lookup name).isSome → (items'.lookup name).isSome := by
  induction target generalizing entry place with
  | nil =>
      -- An entry that is no folder has no folder below it.
      cases entry with
      | folder inner => exact absurd rfl (htarget inner)
      | file content => cases place <;> cases hplace
  | cons name target ih =>
      rcases place with _ | ⟨other, rest⟩
      · cases hplace
        refine ⟨_, rfl, fun found hfound => ?_⟩
        rw [lookup_alterItem h.items]
        split_ifs
        · rfl
        · exact hfound
      · rw [h.at?_put_cons]
        split_ifs with hother
        · subst hother
          rw [at?] at hplace
          rcases hlookup : entry.items.lookup other with _ | item
          · rw [hlookup] at hplace
            cases hplace
          · rw [hlookup] at hplace
            refine ih (h.of_lookup hlookup) (fun inner hinner => ?_) hplace
            apply htarget inner
            rw [at?, hlookup]
            exact hinner
        · exact ⟨items, hplace, fun _ hfound => hfound⟩

/-- What a file holds; a folder holds no content of its own. -/
def content? : Entry → Option Content
  | .file content => some content
  | .folder _ => none

/-- Below an entry without items there is nothing. -/
theorem at?_cons_eq_none {entry : Entry} (h : entry.items = []) (name : Text) (place : Place) :
    entry.at? (name :: place) = none := by
  rw [at?, h]
  rfl

/-- An entry that is no folder has no items. -/
theorem items_eq_nil {entry : Entry} (h : ∀ items, entry ≠ .folder items) : entry.items = [] := by
  cases entry with
  | file content => rfl
  | folder items => exact absurd rfl (h items)

/-- **Other files stay as they are** when an entry without items is put into a folder, where no
folder was. -/
theorem Ordered.content?_put {entry new : Entry} (h : entry.Ordered) (hnew : new.items = [])
    {front : Place} {name : Text} {items : List (Text × Entry)}
    (hfront : entry.at? front = some (.folder items))
    (hfree : ∀ inner, entry.at? (front ++ [name]) ≠ some (.folder inner)) {place : Place}
    (hne : place ≠ front ++ [name]) :
    ((Entry.put new (front ++ [name]) entry).at? place).bind content? =
      (entry.at? place).bind content? := by
  induction front generalizing entry place with
  | nil =>
      cases hfront
      rcases place with _ | ⟨other, rest⟩
      · rfl
      · rw [List.nil_append, h.at?_put_cons]
        split_ifs with hother
        · -- below the new entry there is nothing, and below the old one there was nothing
          subst hother
          have hrest : rest ≠ [] := by
            rintro rfl
            exact hne rfl
          obtain ⟨next, rest, rfl⟩ := List.exists_cons_of_ne_nil hrest
          rw [Entry.put, at?_cons_eq_none hnew, at?]
          rcases hlookup : Entry.items (.folder items) |>.lookup other with _ | old
          · rfl
          · have hold : ∀ inner, old ≠ .folder inner := by
              rintro inner rfl
              apply hfree inner
              rw [List.nil_append, at?, hlookup]
              rfl
            dsimp only
            rw [at?_cons_eq_none (items_eq_nil hold)]
        · rfl
  | cons first front ih =>
      rcases place with _ | ⟨other, rest⟩
      · cases entry with
        | folder _ => rfl
        | file content =>
            rw [at?_cons_eq_none rfl] at hfront
            cases hfront
      · rw [List.cons_append, h.at?_put_cons]
        split_ifs with hother
        · subst hother
          rw [at?] at hfront ⊢
          rcases hlookup : entry.items.lookup other with _ | item
          · rw [hlookup] at hfront
            cases hfront
          · rw [hlookup] at hfront
            refine ih (h.of_lookup hlookup) hfront (fun inner hinner => ?_) fun heq => ?_
            · apply hfree inner
              rw [List.cons_append, at?, hlookup]
              exact hinner
            · exact hne (congrArg (other :: ·) heq)
        · rfl

end Entry

namespace Disk

/-! ## Walks -/

@[simp] theorem root_put (disk : Disk) (place : Place) {new : Entry} (hnew : new.Ordered) :
    (disk.put place new hnew).root = Entry.put new place disk.root := rfl

/-- A step leads somewhere only from a folder. -/
theorem walkStep_eq_ok {disk : Disk} {place next : Place} {step : Step}
    (h : disk.walkStep place step = .ok next) :
    ∃ items, disk.root.at? place = some (.folder items) := by
  unfold walkStep at h
  split at h
  case h_1 items hplace => exact ⟨items, hplace⟩
  case h_2 => cases h
  case h_3 => cases h

/-- A step into a folder finds the item, unless the name is too long or there is none. -/
theorem walkStep_enter {disk : Disk} {place : Place} {items : List (Text × Entry)}
    (h : disk.root.at? place = some (.folder items)) (name : Text) :
    disk.walkStep place (.enter name) =
      if maxName < Text.byteSize name then .error .nameTooLong
      else if (disk.root.at? (place ++ [name])).isSome then .ok (place ++ [name])
      else .error .notFound := by
  have hat : disk.root.at? (place ++ [name]) = items.lookup name := by
    rw [Entry.at?_append, h]
    change Entry.at? (.folder items) [name] = _
    rw [Entry.at?, Entry.items]
    cases items.lookup name <;> rfl
  rw [hat, walkStep, h]

/-- A walk that stays where it has arrived has arrived at a folder. -/
theorem walkFrom_concat_stay {disk : Disk} {start place : Place} {steps : List Step}
    (h : disk.walkFrom start (steps ++ [.stay]) = .ok place) :
    disk.walkFrom start steps = .ok place ∧
      ∃ items, disk.root.at? place = some (.folder items) := by
  rw [walkFrom, List.foldlM_append, bind_eq_ok_iff] at h
  obtain ⟨middle, hsteps, hstay⟩ := h
  obtain ⟨last, hstep, hlast⟩ := bind_eq_ok_iff.1 hstay
  cases hlast
  obtain ⟨items, hitems⟩ := walkStep_eq_ok hstep
  rw [walkStep, hitems] at hstep
  cases hstep
  exact ⟨hsteps, items, hitems⟩

section put

variable {disk : Disk} {new : Entry} {target : Place}

/-- A step that led from a folder leads to the same place. -/
theorem walkStep_put (hnew : new.Ordered)
    (htarget : ∀ items, disk.root.at? target ≠ some (.folder items)) {place next : Place}
    {step : Step} (hstep : disk.walkStep place step = .ok next) :
    (disk.put target new hnew).walkStep place step = .ok next := by
  obtain ⟨items, hplace⟩ := walkStep_eq_ok hstep
  obtain ⟨items', hplace', hnames⟩ := disk.ordered.exists_at?_put new htarget hplace
  unfold walkStep at hstep ⊢
  rw [hplace] at hstep
  rw [root_put, hplace']
  cases step with
  | stay => exact hstep
  | up => exact hstep
  | enter name =>
      dsimp only at hstep ⊢
      split_ifs at hstep with hlong hsome
      rw [if_neg hlong, if_pos (hnames name hsome)]
      exact hstep

/-- A walk that led somewhere leads to the same place. -/
theorem walkFrom_put (hnew : new.Ordered)
    (htarget : ∀ items, disk.root.at? target ≠ some (.folder items)) {place last : Place}
    {steps : List Step} (hwalk : disk.walkFrom place steps = .ok last) :
    (disk.put target new hnew).walkFrom place steps = .ok last := by
  induction steps generalizing place with
  | nil => exact hwalk
  | cons step steps ih =>
      obtain ⟨next, hstep, hrest⟩ := bind_eq_ok_iff.1 hwalk
      exact bind_eq_ok_iff.2 ⟨next, walkStep_put hnew htarget hstep, ih hrest⟩

end put

/-! ## What a change leaves alone -/

/-- The content of the file at a place, if there is one. -/
def file? (disk : Disk) (place : Place) : Option Content :=
  (disk.root.at? place).bind Entry.content?

/-- A text is read from the place that the path leads to. -/
theorem readText_eq_ok_iff {disk : Disk} {path : Path} {t : Text} :
    disk.readText path = .ok t ↔
      ∃ place, disk.resolve path = .ok place ∧ disk.file? place = some (.text t) := by
  constructor
  · intro h
    obtain ⟨entry, hentry, htext⟩ := bind_eq_ok_iff.1 h
    obtain ⟨place, hresolve, hfound⟩ := bind_eq_ok_iff.1 hentry
    refine ⟨place, hresolve, ?_⟩
    split at hfound
    · rename_i found hplace
      cases hfound
      split at htext
      · cases htext
        rw [file?, hplace]
        rfl
      · cases htext
      · cases htext
    · cases hfound
  · rintro ⟨place, hresolve, hfile⟩
    rw [file?, Option.bind_eq_some_iff] at hfile
    obtain ⟨entry, hplace, hcontent⟩ := hfile
    cases entry with
    | file content =>
        cases hcontent
        refine bind_eq_ok_iff.2 ⟨.file (.text t), bind_eq_ok_iff.2 ⟨place, hresolve, ?_⟩, rfl⟩
        rw [hplace]
    | folder items => cases hcontent

/-- **What a change leaves alone.**  From a disk to a later one, every path that led somewhere leads
there still, and the files at places that were not touched hold what they held. -/
structure Extends (disk after : Disk) (touched : List Place) : Prop where
  /-- Paths lead where they led. -/
  resolve : ∀ path place, disk.resolve path = .ok place → after.resolve path = .ok place
  /-- Files hold what they held. -/
  file : ∀ place, place ∉ touched → after.file? place = disk.file? place

theorem Extends.refl (disk : Disk) : disk.Extends disk [] :=
  ⟨fun _ _ hpath => hpath, fun _ _ => rfl⟩

/-- Changes one after the other touch what any of them touches. -/
theorem Extends.trans {disk middle after : Disk} {first second : List Place}
    (h : disk.Extends middle first) (h' : middle.Extends after second) :
    disk.Extends after (first ++ second) := by
  refine ⟨fun path place hpath => h'.resolve path place (h.resolve path place hpath), ?_⟩
  intro place hplace
  rw [List.mem_append, not_or] at hplace
  rw [h'.file place hplace.2, h.file place hplace.1]

/-- **Putting an entry without items into a folder**, where no folder was, touches its place. -/
theorem extends_put {disk : Disk} {front : Place} {name : Text} {items : List (Text × Entry)}
    (hfront : disk.root.at? front = some (.folder items))
    (hfree : ∀ inner, disk.root.at? (front ++ [name]) ≠ some (.folder inner)) {new : Entry}
    (hnew : new.Ordered) (hitems : new.items = []) :
    disk.Extends (disk.put (front ++ [name]) new hnew) [front ++ [name]] := by
  refine ⟨fun path place hpath => ?_, fun place hplace => ?_⟩
  · unfold resolve at hpath ⊢
    split at hpath
    · cases hpath
    · exact walkFrom_put hnew hfree hpath
  · exact disk.ordered.content?_put hitems hfront hfree fun heq => hplace (heq ▸ List.mem_cons_self)

/-! ## Making folders -/

/-- Something is created in a folder. -/
theorem exists_folder_of_creationSite {disk : Disk} {path : Path} {site : Place × Text × Bool}
    (h : disk.creationSite path = .ok site) :
    ∃ items, disk.root.at? site.1 = some (.folder items) := by
  unfold creationSite at h
  split at h
  · cases h
  · obtain ⟨place, hwalk, hsite⟩ := bind_eq_ok_iff.1 h
    cases hsite
    exact (walkFrom_concat_stay hwalk).2

/-- A step into a folder that finds nothing leads to an empty place. -/
theorem at?_eq_none_of_walkStep {disk : Disk} {place : Place} {items : List (Text × Entry)}
    (h : disk.root.at? place = some (.folder items)) {name : Text}
    (hstep : disk.walkStep place (.enter name) = .error .notFound) :
    disk.root.at? (place ++ [name]) = none := by
  rw [walkStep_enter h] at hstep
  split_ifs at hstep with hlong hsome
  · cases hstep
  · exact Option.not_isSome_iff_eq_none.1 hsome

/-- **Making a folder** changes no file. -/
theorem extends_makeFolder {disk made : Disk} {path : Path} (h : disk.makeFolder path = .ok made) :
    disk.Extends made [] := by
  obtain ⟨⟨place, name, isClosed⟩, hsite, hmade⟩ := bind_eq_ok_iff.1 h
  obtain ⟨items, hplace⟩ := exists_folder_of_creationSite hsite
  dsimp only at hmade hplace
  split at hmade
  case h_3 entered _ =>
    split at hmade
    case h_2 hstep =>
      cases hmade
      have hnone := at?_eq_none_of_walkStep hplace hstep
      have hput : disk.Extends (disk.put (place ++ [entered]) (.folder [])) [place ++ [entered]] :=
        extends_put hplace (by simp [hnone]) _ rfl
      refine ⟨hput.resolve, fun other _ => ?_⟩
      by_cases hother : other = place ++ [entered]
      · -- there was nothing, and now there is a folder
        rw [hother, file?, file?, hnone, root_put, disk.ordered.at?_put_self]
        rfl
      · exact hput.file other (by simpa using hother)
    all_goals cases hmade
  all_goals
    obtain ⟨_, -, herror⟩ := bind_eq_ok_iff.1 hmade
    cases herror

/-- Making folders along a path changes no file, whether it succeeds or fails. -/
theorem extends_makeFoldersAlong (disk : Disk) (paths : List Path) :
    disk.Extends (disk.makeFoldersAlong paths).1 [] := by
  fun_induction makeFoldersAlong disk paths with
  | case1 => exact .refl _
  | case2 => exact .refl _
  | case3 path parents _ made hmade => exact extends_makeFolder hmade
  | case4 path parents _ _ around fault hparents ih =>
      rw [hparents] at ih
      exact ih
  | case5 path parents _ _ around hparents made hmade ih =>
      rw [hparents] at ih
      exact ih.trans (extends_makeFolder hmade)
  | case6 path parents _ _ around hparents _ _ _ ih =>
      rw [hparents] at ih
      exact ih
  | case7 path parents _ _ around hparents _ _ _ ih =>
      rw [hparents] at ih
      exact ih
  | case8 => exact .refl _
  | case9 => exact .refl _

/-- **Making folders** changes no file. -/
theorem extends_makeFolders (disk : Disk) (path : Path) :
    disk.Extends (disk.makeFolders path).1 [] :=
  disk.extends_makeFoldersAlong path.ancestors

/-! ## Writing files -/

/-- A path that ends with a name leads to the folder around what it names. -/
theorem creationSite_eq_ok {disk : Disk} {path : Path} {place : Place} {name : Text}
    (h : disk.creationSite path = .ok (place, name, false)) :
    pathFault? path = none ∧ ∃ front, path.pieces = front ++ [name] ∧
      disk.walkFrom (disk.startOf path) (front.map Step.ofPiece) = .ok place := by
  have hsite := snd_of_creationSite h
  rw [Prod.mk.injEq] at hsite
  have hnamed : path.pieces.reverse.dropWhile (·.isEmpty) = path.pieces.reverse :=
    (List.dropWhile_suffix _).eq_of_length (bne_eq_false_iff_eq.1 hsite.2.symm).symm
  have hpieces : path.pieces = path.pieces.reverse.tail.reverse ++ [name] := by
    rcases hreversed : path.pieces.reverse with _ | ⟨last, front⟩
    · exact absurd (List.reverse_eq_nil_iff.1 hreversed) path.pieces_ne_nil
    · rw [hnamed, hreversed] at hsite
      rw [← List.reverse_reverse path.pieces, hreversed, List.reverse_cons, hsite.1]
      rfl
  unfold creationSite at h
  split at h
  · cases h
  · case h_2 hfault =>
    obtain ⟨reached, hwalk, heq⟩ := bind_eq_ok_iff.1 h
    obtain rfl : reached = place := (Prod.mk.inj (Except.ok.inj heq)).1
    rw [hnamed] at hwalk
    exact ⟨hfault, _, hpieces, (walkFrom_concat_stay hwalk).1⟩

/-- What it takes to write a file, and what comes of it. -/
theorem write_eq_ok {disk after : Disk} {path : Path} {content : Content}
    (h : disk.write path content = .ok after) :
    ∃ place name, disk.creationSite path = .ok (place, name, false) ∧
      Step.ofPiece name = .enter name ∧ Text.byteSize name ≤ maxName ∧
      (∀ items, disk.root.at? (place ++ [name]) ≠ some (.folder items)) ∧
      after = disk.put (place ++ [name]) (.file content) := by
  obtain ⟨place, name, hsite, hstep⟩ := enter_of_write h
  obtain ⟨items, hplace⟩ := exists_folder_of_creationSite hsite
  obtain ⟨_, hsite', hwrite⟩ := bind_eq_ok_iff.1 h
  cases hsite.symm.trans hsite'
  dsimp only at hwrite
  rw [hstep] at hwrite
  dsimp only at hwrite
  rw [if_neg Bool.false_ne_true, walkStep_enter hplace] at hwrite
  by_cases hlong : maxName < Text.byteSize name
  · rw [if_pos hlong] at hwrite
    cases hwrite
  · rw [if_neg hlong] at hwrite
    refine ⟨place, name, hsite, hstep, Nat.le_of_not_lt hlong, ?_⟩
    rcases hfound : disk.root.at? (place ++ [name]) with _ | found
    · rw [hfound] at hwrite
      cases hwrite
      exact ⟨by simp, rfl⟩
    · simp only [hfound, Option.isSome_some, if_true] at hwrite
      cases found with
      | file old =>
          cases hwrite
          exact ⟨by simp, rfl⟩
      | folder old => cases hwrite

/-- A path leads to the item of its last name in the folder that the other pieces lead to. -/
theorem resolve_eq {disk : Disk} {path : Path} {front : List Text} {name : Text} {place : Place}
    {items : List (Text × Entry)} (hfault : pathFault? path = none)
    (hpieces : path.pieces = front ++ [name]) (hstep : Step.ofPiece name = .enter name)
    (hname : Text.byteSize name ≤ maxName)
    (hwalk : disk.walkFrom (disk.startOf path) (front.map Step.ofPiece) = .ok place)
    (hplace : disk.root.at? place = some (.folder items)) :
    disk.resolve path =
      if (disk.root.at? (place ++ [name])).isSome then .ok (place ++ [name])
      else .error .notFound := by
  have hlast : disk.walkFrom place [Step.ofPiece name] = disk.walkStep place (.enter name) := by
    rw [hstep, walkFrom, List.foldlM_cons]
    cases disk.walkStep place (.enter name) <;> rfl
  rw [walkStep_enter hplace, if_neg (Nat.not_lt.2 hname)] at hlast
  rw [walkFrom] at hwalk
  rw [resolve, hfault]
  dsimp only
  rw [follow, hpieces, List.map_append, walkFrom, List.foldlM_append, hwalk, ← hlast]
  rfl

/-- **Writing a file** touches one place: the one that the path leads to afterwards.  The path led
there before, unless nothing was there. -/
theorem exists_extends_of_write {disk after : Disk} {path : Path} {content : Content}
    (h : disk.write path content = .ok after) :
    ∃ place, after.resolve path = .ok place ∧ after.file? place = some content ∧
      disk.Extends after [place] ∧
      (disk.root.at? place = none ∨ disk.resolve path = .ok place) := by
  obtain ⟨place, name, hsite, hstep, hname, hfree, rfl⟩ := write_eq_ok h
  obtain ⟨items, hplace⟩ := exists_folder_of_creationSite hsite
  obtain ⟨hfault, front, hpieces, hwalk⟩ := creationSite_eq_ok hsite
  have hself : (disk.put (place ++ [name]) (.file content)).root.at? (place ++ [name]) =
      some (.file content) :=
    disk.ordered.at?_put_self _ _
  refine ⟨place ++ [name], ?_, ?_, extends_put hplace hfree _ rfl, ?_⟩
  · -- the walk to the folder leads there still, and the last step finds the file
    obtain ⟨items', hplace', -⟩ := disk.ordered.exists_at?_put (.file content) hfree hplace
    rw [resolve_eq hfault hpieces hstep hname (walkFrom_put _ hfree hwalk) hplace', hself]
    rfl
  · rw [file?, hself]
    rfl
  · rcases hfound : disk.root.at? (place ++ [name]) with _ | found
    · exact .inl rfl
    · right
      rw [resolve_eq hfault hpieces hstep hname hwalk hplace, hfound]
      rfl

/-- **Theorem.** A file that was written is read back. -/
theorem readText_of_writeText {disk after : Disk} {path : Path} {t : Text}
    (h : disk.writeText path t = .ok after) : after.readText path = .ok t := by
  obtain ⟨place, hresolve, hfile, -⟩ := exists_extends_of_write h
  exact readText_eq_ok_iff.2 ⟨place, hresolve, hfile⟩

end Disk

end DeclAtlas
