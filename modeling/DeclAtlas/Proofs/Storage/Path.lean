import Mathlib
import DeclAtlas.Proofs.Text.Words
import DeclAtlas.Storage.Disk

/-!
# Paths and their components

What joining, parents and relative paths do to the components of a path, whatever its text is:
repeated separators, separators at the end and dots make no difference.

* `Path.components_join`: joining puts the components of one path behind those of the other.
* `Path.exists_parent?_join`: the parent of a path that was joined with a name.
* `Path.components_join_relativeTo`: a path that is written relative to a folder leads from that
  folder to where it led before.
* `Disk.isNamed_of_writeText`: a path that a file was written to ends with a name.
-/

namespace DeclAtlas

namespace Path

/-! ## Pieces and components -/

/-- A path has at least one piece, which may be empty. -/
theorem pieces_ne_nil (path : Path) : path.pieces ≠ [] :=
  Text.splitWhere_ne_nil _ path.text

/-- There is no separator in a piece. -/
theorem notMem_of_mem_pieces {path : Path} {piece : Text} (h : piece ∈ path.pieces) :
    '/' ∉ piece := by
  intro hmem
  have hnot := Text.not_of_mem_splitWhere h hmem
  simp at hnot

/-- A path without separators is one piece. -/
theorem pieces_of_notMem {t : Text} (h : '/' ∉ t) : ({ text := t } : Path).pieces = [t] :=
  Text.splitAtChar_of_notMem h

/-- The path of pieces has these pieces. -/
theorem pieces_join_text {texts : List Text} (hne : texts ≠ []) (h : ∀ t ∈ texts, '/' ∉ t) :
    ({ text := Text.join "/" texts } : Path).pieces = texts :=
  Text.splitAtChar_join hne h

/-- A path is absolute if its first character is a separator. -/
theorem isAbsolute_cons (c : Char) (t : Text) :
    ({ text := c :: t } : Path).isAbsolute = (c == '/') := by
  change (('/' == c) && List.isPrefixOf [] t) = _
  rw [List.isPrefixOf_nil_left, Bool.and_true, Bool.beq_comm]

/-- A path without separators is not absolute. -/
theorem isAbsolute_of_notMem {t : Text} (h : '/' ∉ t) :
    ({ text := t } : Path).isAbsolute = false := by
  cases t with
  | nil => rfl
  | cons c t =>
      rw [isAbsolute_cons, beq_eq_false_iff_ne]
      rintro rfl
      exact h List.mem_cons_self

/-- A text that is not empty begins with a separator if its first piece is empty. -/
theorem isAbsolute_iff {path : Path} {first : Text} {others : List Text} (hne : path.text ≠ [])
    (h : path.pieces = first :: others) : path.isAbsolute = true ↔ first = [] := by
  obtain ⟨t⟩ := path
  cases t with
  | nil => exact absurd rfl hne
  | cons c t =>
      rw [isAbsolute_cons, beq_iff_eq]
      rw [pieces, Text.splitAtChar] at h
      by_cases hc : c = '/'
      · rw [Text.splitWhere, if_pos (beq_iff_eq.2 hc)] at h
        exact iff_of_true hc (List.cons.inj h).1.symm
      · obtain ⟨piece, pieces, hpieces⟩ :=
          List.exists_cons_of_ne_nil (Text.splitWhere_ne_nil (· == '/') t)
        rw [Text.splitWhere_cons_of_not (p := (· == '/')) (beq_eq_false_iff_ne.2 hc) hpieces] at h
        refine iff_of_false hc ?_
        rw [← (List.cons.inj h).1]
        exact List.cons_ne_nil _ _

/-- The text of the component that a piece makes is the piece. -/
theorem text_of_ofPiece? {piece : Text} {component : Component}
    (h : Component.ofPiece? piece = some component) : component.text = piece := by
  unfold Component.ofPiece? at h
  split_ifs at h with hsilent hup
  · cases h
    exact hup.symm
  · cases h
    rfl

/-- The pieces that make components, which give the components back. -/
theorem map_text_filterMap (texts : List Text) :
    (texts.filterMap Component.ofPiece?).map Component.text =
      texts.filter fun piece => (Component.ofPiece? piece).isSome := by
  induction texts with
  | nil => rfl
  | cons piece texts ih =>
      rw [List.filterMap_cons, List.filter_cons]
      rcases hpiece : Component.ofPiece? piece with _ | component
      · exact ih
      · rw [Option.isSome_some, if_pos rfl, List.map_cons, ih, text_of_ofPiece? hpiece]

/-- Pieces that make no component may be dropped first. -/
theorem filterMap_filter_isSome (texts : List Text) :
    (texts.filter fun piece => (Component.ofPiece? piece).isSome).filterMap Component.ofPiece? =
      texts.filterMap Component.ofPiece? := by
  rw [List.filterMap_filter]
  refine List.filterMap_congr fun piece _ => ?_
  cases Component.ofPiece? piece <;> rfl

/-- The components that the beginning of a path makes: the text in front of the first separator. -/
def frontComponents (absolute : Bool) (first : Text) : List Component :=
  if absolute then [.root]
  else if first = ".".toList then [.here]
  else (Component.ofPiece? first).toList

/-- The first piece makes the front of a path; all other pieces make components of their own. -/
theorem components_eq {path : Path} {first : Text} {others : List Text}
    (h : path.pieces = first :: others) :
    path.components =
      frontComponents path.isAbsolute first ++ others.filterMap Component.ofPiece? := by
  rw [components, h]
  rfl

/-- The first piece of a relative path is kept as it is written. -/
theorem map_text_frontComponents {first : Text} (hne : first ≠ []) :
    (frontComponents false first).map Component.text = [first] := by
  rw [frontComponents, if_neg Bool.false_ne_true]
  split_ifs with hhere
  · rw [hhere]
    rfl
  · unfold Component.ofPiece?
    rw [if_neg (not_or.2 ⟨hne, hhere⟩)]
    split_ifs with hup
    · rw [hup]
      rfl
    · rfl

/-- The path ends with the name of a file or folder, without a separator behind it. -/
def IsNamed (path : Path) : Prop :=
  ∃ name, path.pieces.getLast? = some name ∧ Component.ofPiece? name = some (.name name)

/-! ## Joining -/

/-- Joining to the empty path changes nothing. -/
theorem join_eq_self {base path : Path} (hbase : base.text = []) : base.join path = path := by
  rw [join]
  split_ifs with habsolute hempty
  · rfl
  · rw [hbase]
    rfl
  · rw [hbase] at hempty
    exact absurd rfl hempty

/-- The pieces of a joined path: those of the folder, but for an empty one at the end, and those of
the path behind it. -/
theorem exists_pieces_join {base path : Path} (hpath : path.isAbsolute = false)
    (hbase : base.text ≠ []) :
    ∃ first others, (base.join path).pieces = first :: (others ++ path.pieces) ∧
      (base.pieces = first :: others ∨ base.pieces = first :: (others ++ [[]])) ∧
      (base.join path).isAbsolute = base.isAbsolute ∧ (base.join path).text ≠ [] := by
  have hsplit (a b : Text) : ({ text := a ++ '/' :: b } : Path).pieces =
      ({ text := a } : Path).pieces ++ ({ text := b } : Path).pieces :=
    Text.splitWhere_append_cons rfl a b
  have habsolute {a : Text} (ha : a ≠ []) (b : Text) : ({ text := a ++ b } : Path).isAbsolute =
      ({ text := a } : Path).isAbsolute := by
    obtain ⟨c, a, rfl⟩ := List.exists_cons_of_ne_nil ha
    rw [List.cons_append, isAbsolute_cons, isAbsolute_cons]
  obtain ⟨b⟩ := base
  obtain ⟨p⟩ := path
  rw [join, if_neg (Bool.eq_false_iff.1 hpath)]
  split_ifs with hended
  · -- the separator at the end of the folder is in front of an empty piece
    have hsuffix : Text.endsWith b "/" = true := by
      rw [Bool.or_eq_true, List.isEmpty_iff] at hended
      exact hended.resolve_left hbase
    obtain ⟨a, rfl⟩ := List.isSuffixOf_iff_suffix.1 hsuffix
    obtain ⟨first, others, hfirst⟩ := List.exists_cons_of_ne_nil (pieces_ne_nil { text := a })
    refine ⟨first, others, ?_, .inr ?_, habsolute hbase _, by simp⟩
    · change ({ text := (a ++ ['/']) ++ p } : Path).pieces = _
      rw [List.append_assoc, List.singleton_append, hsplit, hfirst, List.cons_append]
    · change ({ text := a ++ '/' :: [] } : Path).pieces = _
      rw [hsplit, hfirst, List.cons_append]
      rfl
  · obtain ⟨first, others, hfirst⟩ := List.exists_cons_of_ne_nil (pieces_ne_nil { text := b })
    refine ⟨first, others, ?_, .inl hfirst, habsolute hbase _, by simp⟩
    rw [hsplit, hfirst, List.cons_append]

/-- **Joining** puts the components of a path behind those of the folder. -/
theorem components_join {base path : Path} (hpath : path.isAbsolute = false)
    (hbase : base.text ≠ []) :
    (base.join path).components =
      base.components ++ path.pieces.filterMap Component.ofPiece? := by
  obtain ⟨first, others, hpieces, hfolder, habsolute, -⟩ := exists_pieces_join hpath hbase
  rw [components_eq hpieces, habsolute, List.filterMap_append, ← List.append_assoc]
  congr 1
  rcases hfolder with hfolder | hfolder
  · rw [components_eq hfolder]
  · rw [components_eq hfolder, List.filterMap_append]
    exact congrArg _ (List.append_nil _).symm

/-- A joined path is absolute if the first one is. -/
theorem isAbsolute_join {base path : Path} (hpath : path.isAbsolute = false) :
    (base.join path).isAbsolute = base.isAbsolute := by
  by_cases hbase : base.text = []
  · rw [join_eq_self hbase, hpath]
    obtain ⟨b⟩ := base
    cases hbase
    rfl
  · obtain ⟨-, -, -, -, habsolute, -⟩ := exists_pieces_join hpath hbase
    exact habsolute

/-- A path that is joined with a name ends with it. -/
theorem getLast?_pieces_join (base : Path) {name : Text} (hname : '/' ∉ name) :
    (base.join { text := name }).pieces.getLast? = some name := by
  by_cases hbase : base.text = []
  · rw [join_eq_self hbase, pieces_of_notMem hname]
    rfl
  · obtain ⟨first, others, hpieces, -⟩ := exists_pieces_join (isAbsolute_of_notMem hname) hbase
    rw [hpieces, pieces_of_notMem hname, ← List.cons_append, List.getLast?_concat]

/-- The components of a joined path are those of both paths. -/
theorem filterMap_pieces_join {base path : Path} (hpath : path.isAbsolute = false) :
    (base.join path).pieces.filterMap Component.ofPiece? =
      base.pieces.filterMap Component.ofPiece? ++ path.pieces.filterMap Component.ofPiece? := by
  by_cases hbase : base.text = []
  · rw [join_eq_self hbase, pieces.eq_def base, hbase]
    rfl
  · obtain ⟨first, others, hpieces, hfolder, -, -⟩ := exists_pieces_join hpath hbase
    rw [hpieces, ← List.cons_append, List.filterMap_append]
    congr 1
    rcases hfolder with hfolder | hfolder
    · rw [hfolder]
    · rw [hfolder, ← List.cons_append, List.filterMap_append]
      exact (List.append_nil _).symm

/-- Relative paths may be joined in any order. -/
theorem components_join_join (base : Path) {middle path : Path}
    (hmiddle : middle.isAbsolute = false) (hpath : path.isAbsolute = false) :
    ((base.join middle).join path).components = (base.join (middle.join path)).components := by
  by_cases hbase : base.text = []
  · rw [join_eq_self hbase, join_eq_self hbase]
  · obtain ⟨-, -, -, -, -, hne⟩ := exists_pieces_join hmiddle hbase
    rw [components_join hpath hne, components_join hmiddle hbase,
      components_join ((isAbsolute_join hpath).trans hmiddle) hbase, filterMap_pieces_join hpath,
      List.append_assoc]

/-! ## Parents -/

/-- A piece that makes a component is not dropped. -/
theorem dropSilent_of_isSome {piece : Text} (h : (Component.ofPiece? piece).isSome)
    (reversed : List Text) : dropSilent (piece :: reversed) = piece :: reversed := by
  rw [dropSilent, List.dropWhile_cons_of_neg]
  rw [Option.isNone_iff_eq_none, ← Option.not_isSome_iff_eq_none]
  exact not_not_intro h

/-- Dropping pieces that make no component changes no components. -/
theorem filterMap_dropSilent (reversed : List Text) :
    (dropSilent reversed).filterMap Component.ofPiece? =
      reversed.filterMap Component.ofPiece? := by
  induction reversed with
  | nil => rfl
  | cons piece reversed ih =>
      rcases hpiece : Component.ofPiece? piece with _ | component
      · rw [List.filterMap_cons_none hpiece, ← ih, dropSilent,
          List.dropWhile_cons_of_pos (by rw [hpiece]; rfl), dropSilent]
      · rw [dropSilent_of_isSome (by rw [hpiece]; rfl)]

/-- What is left after dropping was there before. -/
theorem mem_of_mem_dropSilent {reversed : List Text} {piece : Text}
    (h : piece ∈ dropSilent reversed) : piece ∈ reversed :=
  (List.dropWhile_sublist _).subset h

/-- The parent of a path whose last piece makes a component. -/
theorem parent?_eq {path : Path} {first name : Text} {others : List Text}
    (hpieces : path.pieces = first :: (others ++ [name]))
    (hspeaks : (Component.ofPiece? name).isSome) :
    path.parent? =
      some (if dropSilent others.reverse = [] then
          { text := if path.isAbsolute then "/" else first }
        else ofReversed first (dropSilent others.reverse)) := by
  rw [parent?, hpieces]
  simp only [List.reverse_append, List.reverse_singleton, List.singleton_append,
    dropSilent_of_isSome hspeaks]
  split
  case h_1 hnone => rw [if_pos hnone]
  case h_2 hsome => rw [if_neg hsome]

/-- The components of a path are not changed if the pieces at its end that make none are left
out. -/
theorem components_ofReversed {first : Text} {others : List Text} (hfirst : '/' ∉ first)
    (hothers : ∀ piece ∈ others, '/' ∉ piece) (hne : dropSilent others.reverse ≠ []) :
    (ofReversed first (dropSilent others.reverse)).text ≠ [] ∧
      (ofReversed first (dropSilent others.reverse)).components =
        frontComponents (first = []) first ++ others.filterMap Component.ofPiece? := by
  have hpieces : (ofReversed first (dropSilent others.reverse)).pieces =
      first :: (dropSilent others.reverse).reverse := by
    refine pieces_join_text (List.cons_ne_nil _ _) (List.forall_mem_cons.2 ⟨hfirst, ?_⟩)
    intro piece hpiece
    exact hothers piece (List.mem_reverse.1 (mem_of_mem_dropSilent (List.mem_reverse.1 hpiece)))
  have htext : (ofReversed first (dropSilent others.reverse)).text ≠ [] := by
    intro htext
    rw [pieces, htext] at hpieces
    exact hne (List.reverse_eq_nil_iff.1 (List.cons.inj hpieces).2.symm)
  have habsolute : (ofReversed first (dropSilent others.reverse)).isAbsolute =
      decide (first = []) := by
    rw [Bool.eq_iff_iff, isAbsolute_iff htext hpieces, decide_eq_true_iff]
  refine ⟨htext, ?_⟩
  rw [components_eq hpieces, habsolute, List.filterMap_reverse, filterMap_dropSilent,
    List.filterMap_reverse, List.reverse_reverse]

/-- **The parent** of a path that is joined with a name is the folder, up to the text. -/
theorem exists_parent?_join (base : Path) {name : Text} (hname : '/' ∉ name)
    (hspeaks : (Component.ofPiece? name).isSome) :
    ∃ parent, (base.join { text := name }).parent? = some parent ∧
      parent.components = base.components ∧ (parent.text = [] ↔ base.text = []) := by
  by_cases hbase : base.text = []
  · have hne : name ≠ [] := by
      rintro rfl
      cases hspeaks
    refine ⟨{ text := [] }, ?_, ?_, iff_of_true rfl hbase⟩
    · rw [join_eq_self hbase, parent?, pieces_of_notMem hname]
      exact if_neg (by rwa [List.isEmpty_iff])
    · obtain ⟨b⟩ := base
      cases hbase
      rfl
  · obtain ⟨first, others, hpieces, hfolder, habsolute, hne⟩ :=
      exists_pieces_join (isAbsolute_of_notMem hname) hbase
    have hmem : ∀ piece ∈ first :: others, '/' ∉ piece := by
      intro piece hpiece
      refine @notMem_of_mem_pieces (base.join { text := name }) piece ?_
      rw [hpieces]
      exact List.mem_append_left _ hpiece
    rw [List.forall_mem_cons] at hmem
    have hroot : base.isAbsolute = decide (first = []) := by
      rw [Bool.eq_iff_iff, ← habsolute, isAbsolute_iff hne hpieces, decide_eq_true_iff]
    have hcomponents : base.components =
        frontComponents (first = []) first ++ others.filterMap Component.ofPiece? := by
      rw [← hroot]
      rcases hfolder with hfolder | hfolder
      · exact components_eq hfolder
      · rw [components_eq hfolder, List.filterMap_append]
        exact congrArg _ (List.append_nil _)
    rw [pieces_of_notMem hname] at hpieces
    rw [parent?_eq hpieces hspeaks, habsolute, hroot, hcomponents]
    refine ⟨_, rfl, ?_⟩
    by_cases hnone : dropSilent others.reverse = []
    · have hothers : others.filterMap Component.ofPiece? = [] := by
        rw [← List.reverse_eq_nil_iff, ← List.filterMap_reverse, ← filterMap_dropSilent, hnone]
        rfl
      rw [if_pos hnone, hothers, List.append_nil]
      by_cases hfirst : first = []
      · rw [hfirst]
        exact ⟨rfl, iff_of_false (List.cons_ne_nil _ _) hbase⟩
      · rw [decide_eq_false hfirst, if_neg Bool.false_ne_true,
          components_eq (pieces_of_notMem hmem.1), isAbsolute_of_notMem hmem.1]
        exact ⟨List.append_nil _, iff_of_false hfirst hbase⟩
    · rw [if_neg hnone]
      have hparent := components_ofReversed hmem.1 hmem.2 hnone
      exact ⟨hparent.2, iff_of_false hparent.1 hbase⟩

/-! ## Relative paths -/

/-- A path below a folder is written as the components behind those of the folder. -/
theorem relativeTo_eq {path base : Path} {rest : List Component}
    (h : path.components = base.components ++ rest) :
    path.relativeTo base = Text.join "/" (rest.map Component.text) := by
  have hprefix : base.components.isPrefixOf path.components = true := by
    rw [List.isPrefixOf_iff_prefix, h]
    exact List.prefix_append _ _
  rw [relativeTo, behind?, if_pos hprefix, h, List.drop_left]
  rfl

/-- Pieces joined by separators make a relative path, if the first one is not empty. -/
theorem isAbsolute_join_text {first : Text} {others : List Text} (hne : first ≠ [])
    (h : ∀ t ∈ first :: others, '/' ∉ t) :
    ({ text := Text.join "/" (first :: others) } : Path).isAbsolute = false := by
  rw [Bool.eq_false_iff]
  intro habsolute
  refine hne ((isAbsolute_iff ?_ (pieces_join_text (List.cons_ne_nil _ _) h)).1 habsolute)
  intro htext
  rw [isAbsolute, htext] at habsolute
  cases habsolute

/-- A relative path that is written by its components has these components. -/
theorem components_join_text {path : Path} (hpath : path.isAbsolute = false) :
    ({ text := Text.join "/" (path.components.map Component.text) } : Path).components =
      path.components := by
  by_cases htext : path.text = []
  · obtain ⟨t⟩ := path
    cases htext
    rfl
  · obtain ⟨first, others, hpieces⟩ := List.exists_cons_of_ne_nil path.pieces_ne_nil
    have hne : first ≠ [] := by
      intro hfirst
      rw [(isAbsolute_iff htext hpieces).2 hfirst] at hpath
      cases hpath
    have hmem : ∀ t ∈ first :: others.filter (fun piece => (Component.ofPiece? piece).isSome),
        '/' ∉ t := by
      intro t ht
      refine @notMem_of_mem_pieces path t ?_
      rw [hpieces]
      exact (List.filter_sublist.cons_cons first).subset ht
    rw [components_eq hpieces, hpath, List.map_append, map_text_frontComponents hne,
      map_text_filterMap, List.singleton_append,
      components_eq (pieces_join_text (List.cons_ne_nil _ _) hmem), isAbsolute_join_text hne hmem,
      filterMap_filter_isSome]

/-- **A relative link leads back.**  If a path is written relative to a folder and then followed
from there, it has the components that it had before. -/
theorem components_join_relativeTo {base folder steps target : Path}
    (hbase : base.components = folder.components) (hempty : base.text = [] ↔ folder.text = [])
    (hsteps : steps.isAbsolute = false)
    (htarget : target.components = (folder.join steps).components) :
    (base.join { text := target.relativeTo base }).components = target.components := by
  by_cases hfolder : folder.text = []
  · have hnone : base.components = [] := by
      obtain ⟨b⟩ := base
      cases hempty.2 hfolder
      rfl
    have hrest : target.components = base.components ++ steps.components := by
      rw [htarget, join_eq_self hfolder, hnone, List.nil_append]
    rw [join_eq_self (hempty.2 hfolder), relativeTo_eq hrest, components_join_text hsteps, htarget,
      join_eq_self hfolder]
  · have hrest : target.components =
        base.components ++ steps.pieces.filterMap Component.ofPiece? := by
      rw [htarget, components_join hsteps hfolder, hbase]
    rw [relativeTo_eq hrest, map_text_filterMap, hrest]
    generalize htexts : steps.pieces.filter (fun piece => (Component.ofPiece? piece).isSome) = texts
    have hmem : ∀ t ∈ texts, '/' ∉ t := by
      intro t ht
      rw [← htexts] at ht
      exact notMem_of_mem_pieces (List.mem_of_mem_filter ht)
    have hrelative : ({ text := Text.join "/" texts } : Path).isAbsolute = false := by
      cases texts with
      | nil => rfl
      | cons first others =>
          refine isAbsolute_join_text ?_ hmem
          rintro rfl
          have hsome := List.of_mem_filter (htexts ▸ List.mem_cons_self)
          cases hsome
    have hpieces : ({ text := Text.join "/" texts } : Path).pieces.filterMap
        Component.ofPiece? = steps.pieces.filterMap Component.ofPiece? := by
      rw [← filterMap_filter_isSome steps.pieces, htexts]
      cases texts with
      | nil => rfl
      | cons first others => rw [pieces_join_text (List.cons_ne_nil _ _) hmem]
    rw [components_join hrelative (mt hempty.1 hfolder), hpieces]

end Path

/-! ## Files -/

namespace Disk

/-- Two steps succeed if the first one does and the second one does with its result. -/
theorem bind_eq_ok_iff {α β : Type} {first : Except StorageFault α}
    {next : α → Except StorageFault β} {value : β} :
    first >>= next = .ok value ↔ ∃ result, first = .ok result ∧ next result = .ok value := by
  constructor
  · intro h
    rcases first with fault | result
    · cases h
    · exact ⟨result, rfl, h⟩
  · rintro ⟨_, rfl, h⟩
    exact h

/-- What is created has the last piece that is not empty for its name. -/
theorem snd_of_creationSite {disk : Disk} {path : Path} {site : Place × Text × Bool}
    (h : disk.creationSite path = .ok site) :
    site.2 = ((path.pieces.reverse.dropWhile (·.isEmpty)).head?.getD [],
      path.pieces.reverse.length != (path.pieces.reverse.dropWhile (·.isEmpty)).length) := by
  unfold creationSite at h
  split at h
  · cases h
  · obtain ⟨place, -, hsite⟩ := bind_eq_ok_iff.1 h
    cases hsite
    rfl

/-- A file is written behind a step that enters, and not behind a separator at the end. -/
theorem enter_of_write {disk written : Disk} {path : Path} {content : Content}
    (h : disk.write path content = .ok written) :
    ∃ place name, disk.creationSite path = .ok (place, name, false) ∧
      Step.ofPiece name = .enter name := by
  obtain ⟨⟨place, name, isClosed⟩, hsite, hwrite⟩ := bind_eq_ok_iff.1 h
  dsimp only at hwrite
  split at hwrite
  case h_1 =>
    obtain ⟨_, -, herror⟩ := bind_eq_ok_iff.1 hwrite
    cases herror
  case h_2 =>
    obtain ⟨_, -, herror⟩ := bind_eq_ok_iff.1 hwrite
    cases herror
  case h_3 entered hstep =>
    have hentered : entered = name := by
      unfold Step.ofPiece at hstep
      split_ifs at hstep
      cases hstep
      rfl
    cases isClosed with
    | false => exact ⟨place, name, hsite, hentered ▸ hstep⟩
    | true => cases hwrite

/-- A piece that enters a folder is the name of the folder. -/
theorem ofPiece?_of_enter {name : Text} (h : Step.ofPiece name = .enter name) :
    Path.Component.ofPiece? name = some (.name name) := by
  unfold Step.ofPiece at h
  unfold Path.Component.ofPiece?
  split_ifs at h ⊢
  rfl

/-- A path that a file can be written to ends with a name. -/
theorem isNamed_of_writeText {disk written : Disk} {path : Path} {t : Text}
    (h : disk.writeText path t = .ok written) : path.IsNamed := by
  obtain ⟨place, name, hsite, hstep⟩ := enter_of_write h
  have hname := snd_of_creationSite hsite
  rw [Prod.mk.injEq] at hname
  have hlength := (bne_eq_false_iff_eq.1 hname.2.symm).symm
  have hself := (List.dropWhile_suffix _).eq_of_length hlength
  rw [hself] at hname
  refine ⟨name, ?_, ofPiece?_of_enter hstep⟩
  rw [← List.head?_reverse]
  rcases hhead : path.pieces.reverse.head? with _ | last
  · rw [List.head?_eq_none_iff, List.reverse_eq_nil_iff] at hhead
    exact absurd hhead path.pieces_ne_nil
  · rw [hname.1, hhead]
    rfl

end Disk

end DeclAtlas
