import DeclAtlas.Storage.Path

/-!
# Files and folders

An entry is a file, or a folder with items that have names.  The items of a folder stand in the
order of their names, and no two have the same name (`Entry.Ordered`).  Changing an item, putting an
entry somewhere below and removing one keep this order.
-/

namespace DeclAtlas

/-- What a file holds. -/
inductive Content where
  | text (t : Text)
  /-- Bytes that are not a text. -/
  | binary (bytes : List UInt8)
  deriving DecidableEq, Repr

/-- A file, or a folder with its items in the order of their names. -/
inductive Entry where
  | file (content : Content)
  | folder (items : List (Text × Entry))
  deriving Repr

/-- The names that lead from the root of a disk to an entry. -/
abbrev Place := List Text

namespace Entry

/-- Whether the entry is a folder. -/
def isFolder : Entry → Bool
  | .file _ => false
  | .folder _ => true

/-- The items of a folder; a file has none. -/
def items : Entry → List (Text × Entry)
  | .file _ => []
  | .folder items => items

/-- The entry at a place below this one. -/
def at? (entry : Entry) : Place → Option Entry
  | [] => some entry
  | name :: place =>
    match entry.items.lookup name with
    | none => none
    | some item => item.at? place

/-- Changes the item of a name, which is added in its place if it is missing. -/
def alterItem (name : Text) (change : Option Entry → Entry) :
    List (Text × Entry) → List (Text × Entry)
  | [] => [(name, change none)]
  | (other, entry) :: items =>
    if other = name then (name, change (some entry)) :: items
    else if Text.le name other then (name, change none) :: (other, entry) :: items
    else (other, entry) :: alterItem name change items

/-- Puts an entry at a place; folders on the way are made if they are missing. -/
def put (new : Entry) : Place → Entry → Entry
  | [], _ => new
  | name :: place, entry =>
    .folder (alterItem name (fun old => put new place (old.getD (.folder []))) entry.items)

/-- Removes the entry at a place, if there is one. -/
def remove : Place → Entry → Entry
  | [], entry => entry
  | [name], entry => .folder (entry.items.filter fun item => item.1 != name)
  | name :: place, entry =>
    match entry.items.lookup name with
    | none => entry
    | some item => .folder (alterItem name (fun _ => remove place item) entry.items)

end Entry

/-! ## The order of names -/

/-- The order of texts is the lexicographic one. -/
theorem Text.le_iff {s t : Text} : Text.le s t = true ↔ s < t ∨ s = t := by
  induction s generalizing t with
  | nil => cases t <;> simp [Text.le]
  | cons a s ih =>
      cases t with
      | nil => simp [Text.le]
      | cons b t =>
          have hlt : a.toNat < b.toNat ↔ a < b := Iff.rfl
          rw [Text.le, Bool.or_eq_true, Bool.and_eq_true, decide_eq_true_eq, beq_iff_eq, ih, hlt,
            List.cons_lt_cons_iff, List.cons.injEq, and_or_left, or_assoc]

/-- A text that is neither another one nor in front of it is behind it. -/
theorem Text.lt_of_not_le {s t : Text} (h : ¬ Text.le s t = true) : t < s := by
  rw [Text.le_iff, not_or] at h
  exact Classical.byContradiction fun hnot => h.2 (List.le_antisymm hnot h.1)

namespace Entry

/-- The names of the items rise. -/
def Rising (items : List (Text × Entry)) : Prop :=
  items.Pairwise fun a b => a.1 < b.1

@[simp] theorem rising_nil : Rising [] :=
  .nil

@[simp] theorem rising_cons {item : Text × Entry} {items : List (Text × Entry)} :
    Rising (item :: items) ↔ (∀ other ∈ items, item.1 < other.1) ∧ Rising items :=
  List.pairwise_cons

/-- An item behind a change is an old one, or the one that was changed. -/
theorem mem_alterItem {name : Text} {change : Option Entry → Entry} {items : List (Text × Entry)}
    {item : Text × Entry} (h : item ∈ alterItem name change items) :
    item ∈ items ∨ ∃ old, item = (name, change old) ∧
      ∀ entry, old = some entry → (name, entry) ∈ items := by
  fun_induction alterItem name change items with
  | case1 => exact .inr ⟨none, List.mem_singleton.1 h, by simp⟩
  | case2 entry items =>
      rcases List.mem_cons.1 h with hitem | hitem
      · exact .inr ⟨some entry, hitem, by simp⟩
      · exact .inl (List.mem_cons_of_mem _ hitem)
  | case3 other entry items =>
      rcases List.mem_cons.1 h with hitem | hitem
      · exact .inr ⟨none, hitem, by simp⟩
      · exact .inl hitem
  | case4 other entry items hname hle ih =>
      rcases List.mem_cons.1 h with hitem | hitem
      · exact .inl (hitem ▸ List.mem_cons_self)
      · rcases ih hitem with hold | ⟨old, heq, hold⟩
        · exact .inl (List.mem_cons_of_mem _ hold)
        · exact .inr ⟨old, heq, fun entry hentry => List.mem_cons_of_mem _ (hold entry hentry)⟩

/-- Changing an item keeps the names rising. -/
theorem Rising.alterItem {items : List (Text × Entry)} (h : Rising items) (name : Text)
    (change : Option Entry → Entry) : Rising (alterItem name change items) := by
  fun_induction Entry.alterItem name change items with
  | case1 => exact List.pairwise_singleton _ _
  | case2 entry items =>
      obtain ⟨hfirst, hrest⟩ := rising_cons.1 h
      exact rising_cons.2 ⟨hfirst, hrest⟩
  | case3 other entry items hname hle =>
      have hlt : name < other := (Text.le_iff.1 hle).resolve_right (Ne.symm hname)
      refine rising_cons.2 ⟨fun item hitem => ?_, h⟩
      rcases List.mem_cons.1 hitem with heq | hitem
      · exact heq ▸ hlt
      · exact List.lt_trans hlt ((rising_cons.1 h).1 item hitem)
  | case4 other entry items hname hle ih =>
      obtain ⟨hfirst, hrest⟩ := rising_cons.1 h
      refine rising_cons.2 ⟨fun item hitem => ?_, ih hrest⟩
      rcases mem_alterItem hitem with hold | ⟨old, heq, -⟩
      · exact hfirst item hold
      · exact heq ▸ Text.lt_of_not_le hle

/-- In every folder at and below the entry, the items stand in the order of their names. -/
inductive Ordered : Entry → Prop
  | file (content : Content) : Ordered (.file content)
  | folder {items : List (Text × Entry)} (rising : Rising items)
      (inner : ∀ item ∈ items, Ordered item.2) : Ordered (.folder items)

attribute [simp] Ordered.file

/-- A folder is in order if its own items and all folders among them are. -/
@[simp] theorem ordered_folder_iff {items : List (Text × Entry)} :
    (Entry.folder items).Ordered ↔ Rising items ∧ ∀ item ∈ items, item.2.Ordered := by
  constructor
  · intro h
    cases h with
    | folder rising inner => exact ⟨rising, inner⟩
  · intro h
    exact .folder h.1 h.2

/-- A folder without items is in order. -/
theorem ordered_folder_nil : (Entry.folder []).Ordered := by
  simp

/-- The items of an entry in order have rising names. -/
theorem Ordered.items {entry : Entry} (h : entry.Ordered) : Rising entry.items := by
  cases h with
  | file content => exact .nil
  | folder rising inner => exact rising

/-- What is in a folder in order is in order. -/
theorem Ordered.of_mem {entry : Entry} (h : entry.Ordered) {item : Text × Entry}
    (hitem : item ∈ entry.items) : item.2.Ordered := by
  cases h with
  | file content => cases hitem
  | folder rising inner => exact inner item hitem

/-- An item that is found by its name is among the items. -/
theorem mem_of_lookup {items : List (Text × Entry)} {name : Text} {entry : Entry}
    (h : items.lookup name = some entry) : (name, entry) ∈ items := by
  obtain ⟨front, back, rfl, -⟩ := List.lookup_eq_some_iff.1 h
  exact List.mem_append_right _ List.mem_cons_self

/-- An item that is found by its name in a folder in order is in order. -/
theorem Ordered.of_lookup {entry item : Entry} {name : Text} (h : entry.Ordered)
    (hitem : entry.items.lookup name = some item) : item.Ordered :=
  h.of_mem (mem_of_lookup hitem)

/-- A change that gives entries in order leaves a folder in order. -/
theorem Ordered.alterItem {entry : Entry} (h : entry.Ordered) {name : Text}
    {change : Option Entry → Entry} (hnone : (change none).Ordered)
    (hsome : ∀ old : Entry, old.Ordered → (change (some old)).Ordered) :
    (Entry.folder (Entry.alterItem name change entry.items)).Ordered := by
  refine .folder (h.items.alterItem name change) fun item hitem => ?_
  rcases mem_alterItem hitem with hold | ⟨old, rfl, hold⟩
  · exact h.of_mem hold
  · cases old with
    | none => exact hnone
    | some old => exact hsome old (h.of_mem (hold old rfl))

/-- **Putting an entry in its place** keeps the order. -/
@[simp] theorem Ordered.put {new entry : Entry} (hnew : new.Ordered) (h : entry.Ordered)
    (place : Place) : (Entry.put new place entry).Ordered := by
  induction place generalizing entry with
  | nil => exact hnew
  | cons name place ih => exact h.alterItem (ih ordered_folder_nil) fun old hold => ih hold

/-- **Removing an entry** keeps the order. -/
theorem Ordered.remove {entry : Entry} (h : entry.Ordered) (place : Place) :
    (Entry.remove place entry).Ordered := by
  fun_induction Entry.remove place entry with
  | case1 => exact h
  | case2 name entry =>
      refine .folder (h.items.filter _) fun item hitem => ?_
      exact h.of_mem (List.mem_filter.1 hitem).1
  | case3 => exact h
  | case4 entry name place _ item hitem ih =>
      exact h.alterItem (ih (h.of_lookup hitem)) fun _ _ => ih (h.of_lookup hitem)

end Entry

end DeclAtlas
