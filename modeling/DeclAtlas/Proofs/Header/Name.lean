import Mathlib
import DeclAtlas.Header.Reading
import DeclAtlas.Proofs.Element.DisplayName
import DeclAtlas.Proofs.Text.Cutting

/-!
# Declared names

What every declaration that a header makes has in common, whatever the header says: its name is
proper, and it is neither documented nor marked as exported yet.

A proper name (`ProperName`) is not empty, has no colon, and its only blanks are single spaces
between other characters.  A header may hold blanks of any kind.  They are gone when its words are
joined with spaces, and what is cut off and trimmed after that brings none back
(`SingleSpaced.trimEnd_front`).
-/

namespace DeclAtlas.Header

open DisplayName Text

/-- What is left behind the keywords is words of the header. -/
theorem mem_of_mem_takeKeywords {visibility : Option Visibility} {words' : List Text} {word : Text}
    (h : word ∈ (takeKeywords visibility words').2.2) : word ∈ words' := by
  fun_induction takeKeywords visibility words' with
  | case1 => exact absurd h List.not_mem_nil
  | case2 _ _ _ _ _ _ ih => exact List.mem_cons_of_mem _ (ih h)
  | case3 _ _ _ _ _ _ _ _ _ heq ih =>
      rw [heq] at ih
      exact List.mem_cons_of_mem _ (ih h)
  | case4 _ _ _ _ _ _ _ _ heq ih =>
      rw [heq] at ih
      exact List.mem_cons_of_mem _ (ih h)
  | case5 _ _ _ _ ih => exact List.mem_cons_of_mem _ (ih h)
  | case6 => exact h

/-- What is left behind the type is words of the header, also if a type was begun. -/
theorem mem_of_mem_takeType {front words' : List Text} {word : Text}
    (h : word ∈ (takeType front words').2) : word ∈ front ++ words' := by
  fun_induction takeType front words' with
  | case1 front => rw [List.append_nil]; exact h
  | case2 front next rest _ ih =>
      have h := ih h
      rwa [List.append_assoc, List.singleton_append] at h
  | case3 => exact h
  | case4 => exact List.mem_append_right _ h

/-- What is split off as the name is words of the header. -/
theorem mem_of_mem_splitType {words' : List Text} {word : Text}
    (h : word ∈ (splitType words').2) : word ∈ words' := by
  cases words' with
  | nil => exact h
  | cons first rest => exact mem_of_mem_takeType h

/-- What stands in front of the bases is part of the text. -/
theorem mem_of_mem_splitBases {t : Text} {c : Char} (h : c ∈ (splitBases t).1) : c ∈ t := by
  unfold splitBases at h
  rcases hcut : cutAt? ':' t with _ | ⟨front, bases⟩
  · rw [hcut] at h
    exact h
  · rw [hcut] at h
    obtain ⟨_, -, heq, -⟩ := eq_of_cutWhere? hcut
    rw [heq]
    exact List.mem_append_left _ (mem_of_mem_trimEnd h)

/-- Every space of the text stands between two characters that are not blank. -/
def SingleSpaced (t : Text) : Prop :=
  ∀ front rest : Text, t = front ++ ' ' :: rest →
    (∃ c, front.getLast? = some c ∧ isBlank c = false) ∧
      ∃ c, rest.head? = some c ∧ isBlank c = false

/-- The form that all declared names have. -/
structure ProperName (name : Text) : Prop where
  /-- There is a name. -/
  ne_nil : name ≠ []
  /-- The bases have been taken off. -/
  colon : ':' ∉ name
  /-- The blanks in the name are spaces. -/
  spaced : Spaced name
  /-- The spaces are single ones between other characters. -/
  single : SingleSpaced name

/-- Words joined by spaces have single spaces between them. -/
theorem singleSpaced_join {words' : List Text}
    (h : ∀ word ∈ words', word ≠ [] ∧ ∀ c ∈ word, isBlank c = false) :
    SingleSpaced (join " " words') := by
  intro front rest heq
  have hspace : ∀ word ∈ words', ' ' ∉ word := by
    intro word hword hmem
    exact absurd ((h word hword).2 ' ' hmem) (by decide)
  obtain ⟨a, b, ha, hb, rfl, rfl, rfl⟩ := exists_of_join_eq hspace heq
  exact ⟨exists_getLast?_join (fun word hword => h word (List.mem_append_left b hword)) ha,
    exists_head?_join (fun word hword => h word (List.mem_append_right a hword)) hb⟩

/-- The beginning of a text keeps its single spaces when it is trimmed. -/
theorem SingleSpaced.trimEnd_front {front rest : Text} (h : SingleSpaced (front ++ rest)) :
    SingleSpaced (trimEnd front) := by
  intro a b hab
  obtain ⟨blanks, -, hfront⟩ := exists_trimEnd front
  have hcut : front ++ rest = a ++ ' ' :: (b ++ (blanks ++ rest)) := by
    rw [hfront, hab]
    simp
  obtain ⟨hlast, hhead⟩ := h a _ hcut
  refine ⟨hlast, ?_⟩
  cases b with
  | nil => exact absurd (isBlank_of_trimEnd hab) (by decide)
  | cons c b => exact hhead

/-- Splitting the bases off leaves single spaces single. -/
theorem singleSpaced_splitBases {t : Text} (h : SingleSpaced t) :
    SingleSpaced (splitBases t).1 := by
  unfold splitBases
  rcases hcut : cutAt? ':' t with _ | ⟨front, bases⟩
  · exact h
  · rw [(cutAt?_eq_some_iff.1 hcut).1] at h
    exact h.trimEnd_front

/-- There is no colon in front of the bases. -/
theorem colon_notMem_splitBases (t : Text) : ':' ∉ (splitBases t).1 := by
  unfold splitBases
  rcases hcut : cutAt? ':' t with _ | ⟨front, bases⟩
  · exact cutAt?_eq_none_iff.1 hcut
  · exact fun hmem => (cutAt?_eq_some_iff.1 hcut).2 (mem_of_mem_trimEnd hmem)

/-- The name of a header and its bases are made of words with spaces between them. -/
theorem exists_nameAndBases (t : Text) :
    ∃ words', (∀ word ∈ words', word ≠ [] ∧ ∀ c ∈ word, isBlank c = false) ∧
      (parts t).nameAndBases = join " " words' :=
  ⟨_, fun _ hword => plain_of_mem_words (mem_of_mem_takeKeywords (mem_of_mem_splitType hword)), rfl⟩

/-- The name in a header is spaced. -/
theorem spaced_name (t : Text) : Spaced (parts t).name := by
  intro c hc hblank
  have hc : c ∈ (parts t).nameAndBases := mem_of_mem_splitBases hc
  obtain ⟨words', hwords, heq⟩ := exists_nameAndBases t
  rw [heq] at hc
  rcases mem_join hc with hc | ⟨word, hword, hc⟩
  · simpa using hc
  · rw [(hwords word hword).2 c hc] at hblank
    cases hblank

/-- The name in a header has single spaces. -/
theorem singleSpaced_name (t : Text) : SingleSpaced (parts t).name := by
  apply singleSpaced_splitBases
  obtain ⟨words', hwords, heq⟩ := exists_nameAndBases t
  rw [heq]
  exact singleSpaced_join hwords

/-- The name of a header is proper unless it is empty. -/
theorem properName_name {t : Text} (hne : (parts t).name ≠ []) : ProperName (parts t).name where
  ne_nil := hne
  colon := colon_notMem_splitBases _
  spaced := spaced_name t
  single := singleSpaced_name t

/-- What every declaration has in common when its header has been read. -/
structure Fresh (element : Element) : Prop where
  /-- The name is proper. -/
  proper : ProperName element.name
  /-- The documentation is not part of the header. -/
  summary : element.summary = []
  /-- Nothing is exported yet. -/
  exportable : element.exportable = false

/-- Parts with a proper name declare a fresh element. -/
theorem fresh_of_declare {pieces : Parts} (hpieces : pieces.name ≠ [] → ProperName pieces.name)
    {context : HeaderContext} {element : Element} {opensBody : Bool}
    (h : pieces.declare context = .declaration element opensBody) : Fresh element := by
  unfold Parts.declare at h
  split at h
  · cases h
  · rename_i hname
    simp only [Header.declaration.injEq] at h
    obtain ⟨rfl, -⟩ := h
    exact ⟨hpieces (by simpa using hname), rfl, rfl⟩

/-- Every declaration that is read from a header is fresh. -/
theorem fresh_of_read {context : HeaderContext} {span : Text} {element : Element} {opensBody : Bool}
    (h : read context span = .declaration element opensBody) : Fresh element := by
  unfold read at h
  extract_lets t at h
  split at h
  · cases h
  split at h
  · cases h
  exact fresh_of_declare properName_name h

end DeclAtlas.Header
