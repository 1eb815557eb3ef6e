import Mathlib
import DeclAtlas.Proofs.Scanner.Naming
import DeclAtlas.Proofs.Site.Links

/-!
# Where pages lie

The file of a page is joined from the folder of the site and from the labels on the way down to the
page's node, so it can be told by the steps that lead to it from the folder of the site:

* `Tree.WellFormed.siteFile_eq`: the file of a page is a relative path behind the folder of the
  site, and this path is the same for every folder;
* `Tree.WellFormed.siteSteps_of_mem_children`: its steps are those into the folders around the page,
  and then those of the file's own name.

A label that is a single dot makes no step, and a label of two dots makes a step upwards.
-/

namespace DeclAtlas

namespace Path

/-! ## Steps -/

/-- The steps that the pieces of a path ask for.  A dot in front, which is a component, is no
step. -/
def steps (path : Path) : List Component :=
  path.pieces.filterMap Component.ofPiece?

/-- The steps of a joined path are those of both paths. -/
theorem steps_join {base path : Path} (hpath : path.isAbsolute = false) :
    (base.join path).steps = base.steps ++ path.steps :=
  filterMap_pieces_join hpath

/-- A path without separators is one step at most. -/
theorem steps_of_notMem {t : Text} (h : '/' ∉ t) :
    ({ text := t } : Path).steps = (Component.ofPiece? t).toList := by
  rw [steps, pieces_of_notMem h, List.filterMap_cons]
  cases Component.ofPiece? t <;> rfl

/-- No piece is read as the component for the folder itself. -/
theorem ofPiece?_ne_here (piece : Text) : Component.ofPiece? piece ≠ some .here := by
  unfold Component.ofPiece?
  split_ifs <;> exact nofun

/-- The steps of a relative path are its components, but for a dot in front. -/
theorem steps_eq_filter {path : Path} (h : path.isAbsolute = false) :
    path.steps = path.components.filter (· ≠ .here) := by
  have hnone (texts : List Text) : (texts.filterMap Component.ofPiece?).filter (· ≠ .here) =
      texts.filterMap Component.ofPiece? := by
    rw [List.filter_eq_self]
    intro component hcomponent
    obtain ⟨piece, -, hpiece⟩ := List.mem_filterMap.1 hcomponent
    rw [decide_eq_true_eq]
    rintro rfl
    exact ofPiece?_ne_here piece hpiece
  obtain ⟨first, others, hpieces⟩ := List.exists_cons_of_ne_nil path.pieces_ne_nil
  rw [steps, components_eq hpieces, hpieces, h, List.filter_append, hnone others,
    ← List.singleton_append, List.filterMap_append, frontComponents, if_neg Bool.false_ne_true]
  congr 1
  split_ifs with hdot
  · rw [hdot]
    rfl
  · have hsingle : [first].filterMap Component.ofPiece? = (Component.ofPiece? first).toList := by
      rw [List.filterMap_cons]
      cases Component.ofPiece? first <;> rfl
    rw [← hsingle, hnone]

/-! ## Joining twice -/

/-- What stands between a folder and a path behind it. -/
def separator (folder : Text) : Text :=
  if folder.isEmpty || folder.endsWith "/" then [] else ['/']

/-- A joined path is written with a separator where one is needed. -/
theorem join_eq (base : Path) {path : Path} (hpath : path.isAbsolute = false) :
    base.join path = { text := base.text ++ (separator base.text ++ path.text) } := by
  rw [join, if_neg (Bool.eq_false_iff.1 hpath), separator]
  split_ifs <;> rfl

/-- Whether a separator is needed depends on the last part of the folder. -/
theorem separator_append (s : Text) {t : Text} (ht : t ≠ []) :
    separator (s ++ t) = separator t := by
  obtain ⟨front, c, rfl⟩ := (List.eq_nil_or_concat' t).resolve_left ht
  have hends (u : Text) : Text.endsWith (u ++ [c]) "/" = ('/' == c) := by
    rw [Text.endsWith, List.isSuffixOf, List.reverse_append]
    change ('/' == c && List.isPrefixOf [] u.reverse) = _
    rw [List.isPrefixOf_nil_left, Bool.and_true]
  rw [separator, separator, ← List.append_assoc, hends, hends]
  simp

/-- Behind a separator no other one is needed. -/
theorem separator_append_separator (t : Text) : separator (t ++ separator t) = [] := by
  by_cases h : (t.isEmpty || t.endsWith "/") = true
  · have hnil : separator t = [] := if_pos h
    rw [hnil, List.append_nil, hnil]
  · have hslash : separator t = ['/'] := if_neg h
    rw [hslash, separator_append t (List.cons_ne_nil _ _)]
    rfl

/-- Of three paths it does not matter which two are joined first. -/
theorem join_assoc (a : Path) {b c : Path} (hb : b.isAbsolute = false) (hc : c.isAbsolute = false) :
    (a.join b).join c = a.join (b.join c) := by
  have hbc : (b.join c).isAbsolute = false := (isAbsolute_join hc).trans hb
  rw [join_eq _ hc, join_eq a hbc, join_eq a hb, join_eq b hc]
  obtain ⟨t⟩ := b
  by_cases ht : t = []
  · subst ht
    rw [List.append_nil, separator_append_separator]
    simp [separator]
  · have hseparator : separator (a.text ++ (separator a.text ++ t)) = separator t := by
      rw [← List.append_assoc, separator_append _ ht]
    rw [hseparator]
    simp only [List.append_assoc]

end Path

namespace Page

/-- A stem is a relative path. -/
theorem isAbsolute_stem (label : Text) : ({ text := stem label } : Path).isAbsolute = false :=
  Path.isAbsolute_of_notMem (Tree.notMem_stem label)

/-- The name of a page's file is a relative path. -/
theorem isAbsolute_fileName (label extension : Text) :
    ({ text := stem label ++ '.' :: extension } : Path).isAbsolute = false := by
  have hstem := Tree.notMem_stem label
  cases hcons : stem label with
  | nil => exact Path.isAbsolute_cons _ _
  | cons c rest =>
      rw [hcons, List.mem_cons, not_or] at hstem
      rw [List.cons_append, Path.isAbsolute_cons, beq_eq_false_iff_ne]
      exact Ne.symm hstem.1

/-- Whether a character is the stem of no other one. -/
def keepsChar (c : Char) : Bool :=
  c != '_' && stemChar c == c

/-- A word of such characters is the stem of no other label. -/
theorem stem_eq_iff {word : Text} (hword : word.all keepsChar = true) {label : Text} :
    stem label = word ↔ label = word := by
  have hchar {c d : Char} (hd : keepsChar d = true) : stemChar c = d ↔ c = d := by
    rw [keepsChar, Bool.and_eq_true, bne_iff_ne, beq_iff_eq] at hd
    constructor
    · intro h
      unfold stemChar at h
      split_ifs at h
      · exact absurd h.symm hd.1
      · exact h
    · rintro rfl
      exact hd.2
  induction word generalizing label with
  | nil => exact List.map_eq_nil_iff
  | cons d word ih =>
      rw [List.all_cons, Bool.and_eq_true] at hword
      cases label with
      | nil => exact iff_of_false nofun nofun
      | cons c label =>
          rw [stem, List.map_cons, List.cons.injEq, List.cons.injEq, hchar hword.1]
          exact and_congr_right fun _ => ih hword.2

/-- The stem of a label is not empty. -/
theorem stem_ne_nil {label : Text} (h : label ≠ []) : stem label ≠ [] := by
  rw [stem, ne_eq, List.map_eq_nil_iff]
  exact h

end Page

namespace Tree

section places

variable {tree : Tree}

/-- The steps into the folder for the pages below a node. -/
def folderSteps (tree : Tree) (id : NodeId) : List Path.Component :=
  (tree.siteFolder { text := [] } id).steps

/-- The steps to the file of a page. -/
def siteSteps (tree : Tree) (extension : Text) (id : NodeId) : List Path.Component :=
  (tree.siteFile extension { text := [] } id).steps

/-- The pages below the root stand in the folder of the site. -/
theorem WellFormed.folderSteps_root (h : tree.WellFormed) : tree.folderSteps root = [] := by
  rw [folderSteps, h.siteFolder_root]
  rfl

/-- The folder of a child lies one step below that of its parent. -/
theorem WellFormed.folderSteps_of_mem_children (h : tree.WellFormed) {id child : Nat}
    (hchild : child ∈ tree.children id) :
    tree.folderSteps child =
      tree.folderSteps id ++ (Path.Component.ofPiece? (Page.stem (tree.label child))).toList := by
  rw [folderSteps, h.siteFolder_of_mem_children _ hchild, Path.steps_join (Page.isAbsolute_stem _),
    Path.steps_of_notMem (notMem_stem _), folderSteps]

/-- The page of the root stands in the folder of the site. -/
theorem siteSteps_root (extension : Text) :
    tree.siteSteps extension root = ({ text := "index." ++ extension } : Path).steps := by
  rw [siteSteps, siteFile_root, Path.join_eq_self rfl]

/-- The page of a child stands in the folder of its parent. -/
theorem WellFormed.siteSteps_of_mem_children (h : tree.WellFormed) (extension : Text)
    {id child : Nat} (hchild : child ∈ tree.children id) :
    tree.siteSteps extension child =
      tree.folderSteps id ++
        ({ text := Page.stem (tree.label child) ++ '.' :: extension } : Path).steps := by
  rw [siteSteps, h.siteFile_of_mem_children _ _ hchild,
    Path.steps_join (Page.isAbsolute_fileName _ _), folderSteps]

/-- What lies in the folder below a node lies, as seen from the folder of the site, where it would
lie if the site were put into the folder from which relative paths start. -/
theorem WellFormed.siteFolder_join (h : tree.WellFormed) (out : Path) {id : Nat}
    (hid : id < tree.size) :
    ∀ {path : Path}, path.isAbsolute = false →
      (tree.siteFolder out id).join path =
        out.join ((tree.siteFolder { text := [] } id).join path) := by
  refine h.induction_down (motive := fun id => ∀ {path : Path}, path.isAbsolute = false →
    (tree.siteFolder out id).join path =
      out.join ((tree.siteFolder { text := [] } id).join path)) ?_ ?_ id hid
  · intro path _
    rw [h.siteFolder_root, h.siteFolder_root, Path.join_eq_self rfl]
  · intro id child hchild ih path hpath
    have hstem := Page.isAbsolute_stem (tree.label child)
    rw [h.siteFolder_of_mem_children _ hchild, h.siteFolder_of_mem_children _ hchild,
      Path.join_assoc _ hstem hpath, Path.join_assoc _ hstem hpath,
      ih ((Path.isAbsolute_join hpath).trans hstem)]

/-- The folders of a site are relative paths if the site itself is. -/
theorem WellFormed.isAbsolute_siteFolder (h : tree.WellFormed) {id : Nat}
    (hid : id < tree.size) :
    (tree.siteFolder { text := [] } id).isAbsolute = false := by
  refine h.induction_down (motive := fun id =>
    (tree.siteFolder { text := [] } id).isAbsolute = false) ?_ ?_ id hid
  · rw [h.siteFolder_root]
    rfl
  · intro id child hchild ih
    rw [h.siteFolder_of_mem_children _ hchild, Path.isAbsolute_join (Page.isAbsolute_stem _), ih]

/-- **The file of a page** is a relative path behind the folder of the site. -/
theorem WellFormed.siteFile_eq (h : tree.WellFormed) (extension : Text) (out : Path) {id : Nat}
    (hid : id < tree.size) :
    tree.siteFile extension out id = out.join (tree.siteFile extension { text := [] } id) ∧
      (tree.siteFile extension { text := [] } id).isAbsolute = false := by
  by_cases hroot : id = root
  · subst hroot
    rw [siteFile_root, siteFile_root, Path.join_eq_self rfl]
    exact ⟨rfl, rfl⟩
  · obtain ⟨above, hchild⟩ := h.exists_mem_children hid hroot
    have habove := Nat.lt_trans (h.lt_of_mem_children hchild) hid
    have hfile := Page.isAbsolute_fileName (tree.label id) extension
    rw [h.siteFile_of_mem_children _ _ hchild, h.siteFile_of_mem_children _ _ hchild]
    exact ⟨h.siteFolder_join out habove hfile,
      (Path.isAbsolute_join hfile).trans (h.isAbsolute_siteFolder habove)⟩

end places

end Tree

end DeclAtlas
