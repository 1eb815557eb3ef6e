import Mathlib
import DeclAtlas.Settings.Basic

/-!
# Recent folders

The folders loaded recently are kept as a list that every new folder is put in front of.  What the
list holds after any history is said by the history alone: the last mention of each folder, in the
text of that mention, the latest ten of them.

* `lastMentions`: the last mentions in a history.
* `recents_addRecent`: one more folder, for a list that holds the latest of the last mentions.
* **Theorem** (`addRecent_history`): after any history the list holds the latest ten.

Ten entries are enough for every later step: nine of them are needed behind a new mention, and since
they are different folders, at most one is taken out in front of it (`take_filter_take`).
-/

namespace DeclAtlas.Settings

/-- The last mention of each folder in a history, in the order of the history.  Mentions are of the
same folder if their components are. -/
def lastMentions : List Path → List Path
  | [] => []
  | folder :: later =>
    if later.any fun path => path.same folder then lastMentions later
    else folder :: lastMentions later

/-- Paths are the same if their components are. -/
theorem same_iff {a b : Path} : a.same b = true ↔ a.components = b.components := by
  rw [Path.same, beq_iff_eq]

/-- Every last mention is a mention. -/
theorem mem_of_mem_lastMentions {history : List Path} {path : Path}
    (h : path ∈ lastMentions history) : path ∈ history := by
  induction history with
  | nil => exact h
  | cons folder later ih =>
      rw [lastMentions] at h
      split_ifs at h
      · exact List.mem_cons_of_mem folder (ih h)
      · rcases List.mem_cons.1 h with rfl | h
        · exact List.mem_cons_self
        · exact List.mem_cons_of_mem folder (ih h)

/-- No two last mentions are of the same folder. -/
theorem pairwise_lastMentions (history : List Path) :
    (lastMentions history).Pairwise fun a b => a.components ≠ b.components := by
  induction history with
  | nil => exact List.Pairwise.nil
  | cons folder later ih =>
      rw [lastMentions]
      split_ifs with hlater
      · exact ih
      · refine List.pairwise_cons.2 ⟨fun path hpath heq => hlater ?_, ih⟩
        exact List.any_eq_true.2 ⟨path, mem_of_mem_lastMentions hpath, same_iff.2 heq.symm⟩

/-- A new mention replaces the one of the same folder. -/
theorem lastMentions_concat (history : List Path) (folder : Path) :
    lastMentions (history ++ [folder]) =
      (lastMentions history).filter (fun path => !path.same folder) ++ [folder] := by
  induction history with
  | nil => rfl
  | cons first later ih =>
      rw [List.cons_append, lastMentions, lastMentions, List.any_append, ih]
      by_cases hlater : later.any (fun path => path.same first) = true
      · rw [if_pos hlater, if_pos (by rw [hlater, Bool.true_or])]
      · have hsame : first.same folder = folder.same first := Bool.beq_comm
        rw [if_neg hlater, Bool.eq_false_of_not_eq_true hlater, Bool.false_or, List.any_cons,
          List.any_nil, Bool.or_false, ← hsame]
        cases hfirst : first.same folder with
        | true => rw [if_pos rfl, List.filter_cons_of_neg (by simp [hfirst])]
        | false =>
            rw [if_neg Bool.false_ne_true, List.filter_cons_of_pos (by simp [hfirst]),
              List.cons_append]

/-- Of different folders at most one is taken out, so one entry in reserve makes up for it. -/
theorem take_filter_take {paths : List Path}
    (h : paths.Pairwise fun a b => a.components ≠ b.components) (folder : Path) (count : Nat) :
    ((paths.take (count + 1)).filter fun path => !path.same folder).take count =
      (paths.filter fun path => !path.same folder).take count := by
  induction paths generalizing count with
  | nil => rfl
  | cons path paths ih =>
      obtain ⟨hpath, hpaths⟩ := List.pairwise_cons.1 h
      rw [List.take_succ_cons]
      cases hsame : path.same folder with
      | false =>
          rw [List.filter_cons_of_pos (by simp [hsame]), List.filter_cons_of_pos (by simp [hsame])]
          cases count with
          | zero => rfl
          | succ count => rw [List.take_succ_cons, List.take_succ_cons, ih hpaths]
      | true =>
          -- The others are other folders, so nothing else is taken out.
          have hothers : ∀ other ∈ paths, (!other.same folder) = true := by
            intro other hother
            rw [Bool.not_eq_true', ← Bool.not_eq_true, same_iff, ← same_iff.1 hsame]
            exact (hpath other hother).symm
          rw [List.filter_cons_of_neg (by simp [hsame]), List.filter_cons_of_neg (by simp [hsame]),
            List.filter_eq_self.2 hothers,
            List.filter_eq_self.2 fun other hother => hothers other (List.mem_of_mem_take hother),
            List.take_take, Nat.min_self]

/-- One more folder, for a list that holds the latest of the last mentions. -/
theorem recents_addRecent {settings : Settings} {history : List Path}
    (h : settings.recents = (lastMentions history).reverse.take maxRecents) (folder : Path) :
    (settings.addRecent folder).recents =
      (lastMentions (history ++ [folder])).reverse.take maxRecents := by
  have hdifferent : (lastMentions history).reverse.Pairwise
      fun a b => a.components ≠ b.components :=
    List.pairwise_reverse.2 ((pairwise_lastMentions history).imp Ne.symm)
  have htake := take_filter_take hdifferent folder 9
  rw [lastMentions_concat, List.reverse_append, List.reverse_singleton, List.singleton_append,
    ← List.filter_reverse]
  change (folder :: settings.recents.filter _).take 10 = _
  rw [h]
  exact congrArg (folder :: ·) htake

/-- The recent folders are the last ones that were mentioned, the latest first. -/
theorem recents_foldl {settings : Settings} (h : settings.recents = []) (history : List Path) :
    (history.foldl addRecent settings).recents =
      (lastMentions history).reverse.take maxRecents := by
  induction history using List.reverseRecOn with
  | nil => exact h
  | append_singleton history folder ih =>
      rw [List.foldl_append]
      exact recents_addRecent ih folder

/-- Only the recent folders change. -/
theorem foldl_addRecent_eq (settings : Settings) (history : List Path) :
    history.foldl addRecent settings =
      { settings with recents := (history.foldl addRecent settings).recents } := by
  induction history generalizing settings with
  | nil => rfl
  | cons folder history ih =>
      rw [List.foldl_cons, ih]
      rfl

/-- **Theorem.** Where no folder was recent, after any history the recent folders are the latest ten
of its last mentions, the latest first, and nothing else has changed.  They are different folders,
and the first of them is the last one of the history. -/
theorem addRecent_history {settings : Settings} (h : settings.recents = []) (history : List Path) :
    history.foldl addRecent settings =
        { settings with recents := (lastMentions history).reverse.take 10 } ∧
      (history.foldl addRecent settings).recents.Pairwise
        (fun a b => a.components ≠ b.components) ∧
      (history.foldl addRecent settings).recents.length ≤ 10 ∧
      (history.foldl addRecent settings).recents.head? = history.getLast? := by
  have hrecents := recents_foldl h history
  refine ⟨?_, ?_, ?_, ?_⟩
  · rw [foldl_addRecent_eq, hrecents]
    rfl
  · rw [hrecents]
    have hdifferent := (pairwise_lastMentions history).imp Ne.symm
    exact (List.pairwise_reverse.2 hdifferent).sublist (List.take_sublist _ _)
  · rw [hrecents]
    exact List.length_take_le _ _
  · rw [hrecents]
    rcases List.eq_nil_or_concat' history with rfl | ⟨front, folder, rfl⟩
    · rfl
    · rw [lastMentions_concat, List.reverse_append, List.getLast?_concat]
      rfl

/-- Eleven folders, the first two of which are mentioned again in another text. -/
def returningFolders : List Path :=
  ["a", "b", "c", "d", "e", "f", "g", "h", "i", "j", "k", "a/", "./b", "b//."]

/-- A folder that had fallen off the end comes back, one that is in the list moves to the front, and
`./b` is another folder than `b`. -/
theorem addRecent_history_returningFolders :
    ({} : Settings).recents = [] ∧
      (returningFolders.foldl addRecent {}).recents =
        ["b//.", "./b", "a/", "k", "j", "i", "h", "g", "f", "e"] := by
  have hmentions : (lastMentions returningFolders).reverse.take 10 =
      ["b//.", "./b", "a/", "k", "j", "i", "h", "g", "f", "e"] := by decide +kernel
  refine ⟨rfl, ?_⟩
  rw [(addRecent_history rfl returningFolders).1, ← hmentions]

end DeclAtlas.Settings
