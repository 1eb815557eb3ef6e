import Mathlib
import DeclAtlas.Proofs.Scanner.Growth
import DeclAtlas.Proofs.Scanner.Stream

/-!
# Nodes have names

A tree changes only by declarations that headers make, so what every such declaration keeps
(`Tree.Declared`) is kept by every source (`Tree.Declared.read`).  One thing that is kept is that
names are proper: they are not empty, and then labels are not empty either.

* `Tree.Reached.proper`: all names are proper, whatever was read.
* `Tree.Reached.label_ne_nil`: below the root no label is empty, whatever was read.
-/

namespace DeclAtlas

/-- The display name of a name that is not empty is not empty. -/
theorem DisplayName.ne_nil_of_ofName? {name shown : Text} (hname : name ≠ [])
    (h : ofName? name = some shown) : shown ≠ [] := by
  unfold ofName? at h
  split at h
  case h_1 =>
    split_ifs at h
    · cases h
      exact hname
    · obtain ⟨types, -, hshown⟩ := Option.bind_eq_some_iff.1 h
      cases hshown
      simp
  case h_2 =>
    cases h
    exact hname

namespace Tree

/-- The property is kept by every declaration that a header makes. -/
def Declared (P : Tree → Prop) : Prop :=
  ∀ (tree : Tree) (parent : NodeId) (inherits : Bool) (element : Element) (summary : Text),
    Header.Fresh element → P tree → P (tree.declare parent inherits { element with summary }).1

end Tree

namespace Scanner

variable {P : Tree → Prop}

/-- Taking a header keeps what every declaration keeps. -/
theorem declared_take (hP : Tree.Declared P) (s : Scanner) (h : P s.tree) (boundary : Boundary)
    {header : Header} (hfresh : ∀ element opensBody, header = .declaration element opensBody →
      Header.Fresh element) : P (s.take boundary header).1.tree := by
  cases header with
  | importing => exact h
  | initializer => exact h
  | nothing => exact h
  | declaration element opensBody => exact hP _ _ _ _ _ (hfresh element opensBody rfl) h

/-- Reading a header keeps what every declaration keeps. -/
theorem declared_readHeader (hP : Tree.Declared P) (s : Scanner) (h : P s.tree)
    (boundary : Boundary) : P (s.readHeader boundary).tree := by
  unfold readHeader
  extract_lets reading
  rw [tree_moveScope]
  exact declared_take hP (s.startSpan (s.offset + 1)) h boundary
    fun _ _ heq => Header.fresh_of_read heq

/-- A boundary keeps what every declaration keeps. -/
theorem declared_boundary (hP : Tree.Declared P) (s : Scanner) (h : P s.tree)
    (boundary : Boundary) : P (s.boundary boundary).tree := by
  unfold Scanner.boundary
  split_ifs
  · exact h
  · extract_lets counted
    split
    · exact declared_readHeader hP counted h boundary
    · split_ifs <;> exact h

/-- **One character** keeps what declarations keep. -/
theorem declared_step (hP : Tree.Declared P) (s : Scanner) (h : P s.tree) (c : Char) :
    P (s.step c).tree := by
  change P (s.dispatch c).tree
  rcases dispatch_cases s c with ⟨b, heq⟩ | hsame
  · rw [heq]
    exact declared_boundary hP { s with mode := .plain } h b
  · rw [hsame.tree]
    exact h

end Scanner

namespace Tree

/-- **A source** keeps what declarations keep. -/
theorem Declared.read {P : Tree → Prop} (hP : Declared P) {tree : Tree} (h : P tree)
    (base : NodeId) (symbols : Symbols) (t : Text) : P (tree.read base symbols t).tree := by
  rw [tree_read_eq_scan]
  exact Scanner.scan_induction (P := fun s => P s.tree)
    (fun s c hs => Scanner.declared_step hP s hs c) h t

/-- What holds of a tree with only a root, and is kept by declarations, holds of every tree that
comes from reading sources. -/
theorem Reached.of_declared {P : Tree → Prop} (hP : Declared P)
    (hroot : ∀ label, P (Tree.ofLabel label)) {tree : Tree} (h : tree.Reached) : P tree := by
  induction h with
  | ofLabel label => exact hroot label
  | read _ base _ symbols t ih => exact hP.read ih base symbols t

/-! ## Names -/

/-- All declared names are proper. -/
def Proper (tree : Tree) : Prop :=
  ∀ (id : NodeId) (name : Text), tree.name? id = some name → Header.ProperName name

/-- Every declaration keeps names proper. -/
theorem declared_proper : Declared Proper := by
  intro tree parent inherits element summary hfresh h id name hname
  set documented : Element := { element with summary }
  rcases hfind : tree.findChild? parent documented.name with _ | existing
  · rw [declare_of_none hfind, name?, element?_addChild] at hname
    split_ifs at hname
    · rw [Option.map_some, name_inherit, Option.some.injEq] at hname
      exact hname ▸ hfresh.proper
    · exact h id name hname
  · have hsame : (tree.appendSummary existing documented.summary).name? id = tree.name? id := by
      apply name?_modifyElement
      exact fun _ => rfl
    rw [declare_of_some hfind, hsame] at hname
    exact h id name hname

/-- In every tree that is read all names are proper. -/
theorem Reached.proper {tree : Tree} (h : tree.Reached) : tree.Proper := by
  refine h.of_declared declared_proper fun label id name hname => ?_
  rw [name?, element?_ofLabel, Option.map_none] at hname
  cases hname

/-- Below the root no label is empty. -/
theorem Reached.label_ne_nil {tree : Tree} (h : tree.Reached) {id : Nat} (hroot : id ≠ root)
    (hid : id < tree.size) : tree.label id ≠ [] := by
  have hwf := h.wellFormed_and_unmarked.1
  obtain ⟨element, helement⟩ :=
    Option.isSome_iff_exists.1 (hwf.element id (Nat.pos_of_ne_zero hroot) hid)
  have hproper : Header.ProperName element.name := by
    apply h.proper id
    rw [name?, helement, Option.map_some]
  exact DisplayName.ne_nil_of_ofName? hproper.ne_nil (hwf.label id element helement)

end Tree

end DeclAtlas
