import DeclAtlas.Text.BreakClass

/-!
# Clusters

What a reader sees as one character can be written with several: a letter with its marks, a flag
with two halves, a family with its members.  A text is cut into such clusters by the rules for
extended grapheme clusters: from left to right, each character joins the cluster in front of it or
starts one of its own.  What decides is the class of the character and the end of the cluster.

* `concat_clusters`: the clusters of a text, one behind the other, are the text.
* `ne_nil_of_mem_clusters`: no cluster is empty.
-/

namespace DeclAtlas.Text

/-- How far the end of a cluster is on its way to a conjunct. -/
inductive Conjunct where
  | none
  /-- A consonant, with marks behind it. -/
  | consonant
  /-- A consonant, with marks behind it and a linker among them. -/
  | linked
  deriving DecidableEq, Repr

/-- How far the end of a cluster is on its way to joined pictographs. -/
inductive Pictogram where
  | none
  /-- A pictograph, with marks behind it. -/
  | marked
  /-- A pictograph, with marks and then a joiner behind it. -/
  | joined
  deriving DecidableEq, Repr

/-- The end of a cluster, as far as it matters for the character behind it. -/
structure ClusterEnd where
  /-- The class of the last character. -/
  last : BreakClass
  /-- Whether the last character is the first half of a flag. -/
  isHalfFlag : Bool
  conjunct : Conjunct
  pictogram : Pictogram
  deriving DecidableEq, Repr

namespace ClusterEnd

/-- The conjunct when a character of a class comes behind it. -/
def extendConjunct (conjunct : Conjunct) : BreakClass → Conjunct
  | .consonant => .consonant
  | .linker => if conjunct = .none then .none else .linked
  | .extend | .joiner => conjunct
  | _ => .none

/-- The pictogram when a character of a class comes behind it. -/
def extendPictogram (pictogram : Pictogram) : BreakClass → Pictogram
  | .pictograph => .marked
  | .extend | .linker | .nonJoiner => if pictogram = .marked then .marked else .none
  | .joiner => if pictogram = .marked then .joined else .none
  | _ => .none

/-- The end of a cluster of one character. -/
def start (kind : BreakClass) : ClusterEnd :=
  { last := kind
    isHalfFlag := kind == .regional
    conjunct := extendConjunct .none kind
    pictogram := extendPictogram .none kind }

/-- The end of a cluster when a character joins it. -/
def push (tail : ClusterEnd) (kind : BreakClass) : ClusterEnd :=
  { last := kind
    isHalfFlag := kind == .regional && !tail.isHalfFlag
    conjunct := extendConjunct tail.conjunct kind
    pictogram := extendPictogram tail.pictogram kind }

/-- Whether a character joins the cluster in front of it. -/
def joins (tail : ClusterEnd) (kind : BreakClass) : Bool :=
  match tail.last, kind with
  | .carriageReturn, .lineFeed => true
  | .carriageReturn, _ | .lineFeed, _ | .control, _ => false
  | _, .carriageReturn | _, .lineFeed | _, .control => false
  | .prepended, _ => true
  | .leading, .leading | .leading, .vowel | .leading, .openSyllable
  | .leading, .closedSyllable => true
  | .openSyllable, .vowel | .openSyllable, .trailing | .vowel, .vowel | .vowel, .trailing => true
  | .closedSyllable, .trailing | .trailing, .trailing => true
  | _, .consonant => tail.conjunct = .linked
  | _, .pictograph => tail.pictogram = .joined
  | _, .regional => tail.isHalfFlag
  | _, kind => kind.isMark

end ClusterEnd

/-- The rest of the cluster that ends in `tail`, and the clusters behind it. -/
def clustersBehind (tail : ClusterEnd) : Text → Text × List Text
  | [] => ([], [])
  | c :: t =>
    let kind := BreakClass.ofChar c
    if tail.joins kind then
      let (rest, clusters) := clustersBehind (tail.push kind) t
      (c :: rest, clusters)
    else
      let (rest, clusters) := clustersBehind (.start kind) t
      ([], (c :: rest) :: clusters)

/-- The clusters of a text. -/
def clusters : Text → List Text
  | [] => []
  | c :: t =>
    let (rest, others) := clustersBehind (.start (.ofChar c)) t
    (c :: rest) :: others

/-- Clusters are cut without loss, with what still belongs to the one in front. -/
theorem concat_clustersBehind (tail : ClusterEnd) (t : Text) :
    (clustersBehind tail t).1 ++ (clustersBehind tail t).2.flatten = t := by
  induction t generalizing tail with
  | nil => rfl
  | cons c t ih =>
    simp only [clustersBehind]
    split
    · simp only [List.cons_append, ih]
    · simp only [List.nil_append, List.flatten_cons, List.cons_append, ih]

/-- Clusters are cut without loss. -/
@[simp]
theorem concat_clusters (t : Text) : (clusters t).flatten = t := by
  cases t with
  | nil => rfl
  | cons c t =>
    simp only [clusters, List.flatten_cons, List.cons_append, concat_clustersBehind]

/-- No cluster behind another one is empty. -/
theorem ne_nil_of_mem_clustersBehind {tail : ClusterEnd} {t cluster : Text}
    (h : cluster ∈ (clustersBehind tail t).2) : cluster ≠ [] := by
  induction t generalizing tail with
  | nil => cases h
  | cons c t ih =>
    simp only [clustersBehind] at h
    split at h
    · exact ih h
    · cases h with
      | head => exact List.cons_ne_nil _ _
      | tail _ h => exact ih h

/-- No cluster is empty. -/
theorem ne_nil_of_mem_clusters {t cluster : Text} (h : cluster ∈ clusters t) : cluster ≠ [] := by
  cases t with
  | nil => cases h
  | cons c t =>
    cases h with
    | head => exact List.cons_ne_nil _ _
    | tail _ h => exact ne_nil_of_mem_clustersBehind h

end DeclAtlas.Text
