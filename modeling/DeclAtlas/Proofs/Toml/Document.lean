import Mathlib
import DeclAtlas.Proofs.Toml.Quotation
import DeclAtlas.Toml.Reader

/-!
# Documents of keys and values

A document without headers is a sequence of lines, each with a key and a value.

* `Denotes depth written value` says that a text is read as a value wherever a value may stand, that
  is in front of the end of a line, of a comma or of a closing bracket.  Words, strings
  (`denotes_writeString`) and arrays of values (`denotes_array`) are read so.
* **Theorem** (`read?_pairLines`): a document whose lines have different keys, and texts that
  denote values behind them, is read as these keys and values in their order.
-/

namespace DeclAtlas.Toml

/-! ## Values -/

/-- The characters that may stand right behind a value. -/
def endsValue (c : Char) : Bool :=
  c == '\n' || c == ',' || c == ']'

/-- The characters that a value may begin with: no blank or line break, no comment, and not the end
of an array. -/
def beginsValue (c : Char) : Bool :=
  !(isLineBlank c || c == '\n' || c == '\r' || c == '#' || c == ']')

/-- A written text is read as a value that is nested at most `depth` deep. -/
structure Denotes (depth : Nat) (written : Text) (value : Toml) : Prop where
  /-- The text has a first character, and a value may begin with it. -/
  front : ∃ c more, written = c :: more ∧ beginsValue c = true
  /-- The value is read up to the character that ends it. -/
  read : ∀ c rest, endsValue c = true →
    readValue? depth (written ++ c :: rest) = some (value, c :: rest)

/-- A line break, a comma or a bracket stands behind a value. -/
theorem endsValue_cases {c : Char} (h : endsValue c = true) : c = '\n' ∨ c = ',' ∨ c = ']' := by
  simpa [endsValue, or_assoc] using h

/-- Skipping blanks stops at any other character. -/
theorem skipBlanks_cons {c : Char} (h : isLineBlank c = false) (rest : Text) :
    skipBlanks (c :: rest) = c :: rest := by
  simp [skipBlanks, h]

/-- A word is read up to the first character that is not of a word. -/
theorem readWord?_append {word : Text} {value : Toml} (hword : ∀ c ∈ word, isWordChar c = true)
    (hvalue : ofWord? word = some value) {c : Char} (hc : isWordChar c = false) (hspace : c ≠ ' ')
    (rest : Text) : readWord? (word ++ c :: rest) = some (value, c :: rest) := by
  have htake : (word ++ c :: rest).takeWhile isWordChar = word := by
    rw [List.takeWhile_append_of_pos hword, List.takeWhile_cons_of_neg (by simp [hc]),
      List.append_nil]
  have hdrop : (word ++ c :: rest).dropWhile isWordChar = c :: rest := by
    rw [List.dropWhile_append_of_pos hword, List.dropWhile_cons_of_neg (by simp [hc])]
  unfold readWord?
  extract_lets found left joined
  have hjoined : joined = none := by
    unfold joined left
    rw [hdrop]
    split
    case h_1 heq =>
      cases heq
      exact absurd rfl hspace
    case h_2 => rfl
  rw [hjoined, Option.none_or]
  unfold found left
  rw [htake, hdrop, hvalue]
  rfl

/-- A value that begins like a word is a word. -/
theorem readValue?_word (depth : Nat) {c : Char} (hc : isWordChar c = true) (rest : Text) :
    readValue? depth (c :: rest) = readWord? (c :: rest) := by
  have hne : c ≠ '[' ∧ c ≠ '\x7b' ∧ c ≠ '"' ∧ c ≠ '\'' := by
    refine ⟨?_, ?_, ?_, ?_⟩ <;>
    · rintro rfl
      exact absurd hc (by decide)
  rw [readValue?.eq_def]
  split <;> simp_all

/-- A word that stands for a value is read as this value. -/
theorem denotes_word (depth : Nat) {word : Text} {value : Toml} (hne : word ≠ [])
    (hword : ∀ c ∈ word, isWordChar c = true) (hvalue : ofWord? word = some value) :
    Denotes depth word value := by
  obtain ⟨first, others, rfl⟩ := List.exists_cons_of_ne_nil hne
  have hfirst : isWordChar first = true := hword first List.mem_cons_self
  refine ⟨⟨first, others, rfl, ?_⟩, fun c rest hc => ?_⟩
  · rw [beginsValue, Bool.not_eq_true', Bool.eq_false_iff]
    intro hother
    simp only [isLineBlank, Bool.or_eq_true, beq_iff_eq] at hother
    rcases hother with ((((rfl | rfl) | rfl) | rfl) | rfl) | rfl <;>
      exact absurd hfirst (by decide)
  · have hends : isWordChar c = false ∧ c ≠ ' ' := by
      rcases endsValue_cases hc with rfl | rfl | rfl <;> decide
    have hread := readWord?_append hword hvalue hends.1 hends.2 rest
    rw [List.cons_append] at hread ⊢
    rw [readValue?_word depth hfirst, hread]

/-- A written string is read as the string. -/
theorem denotes_writeString (depth : Nat) (t : Text) :
    Denotes depth (writeString t) (.string t) where
  front := by
    obtain ⟨quote, more, heq, rfl | rfl⟩ := exists_writeString t
    · exact ⟨_, _, heq, rfl⟩
    · exact ⟨_, _, heq, rfl⟩
  read c rest hc := by
    have hread : readString? (writeString t ++ c :: rest) = some (t, c :: rest) := by
      apply readString?_writeString
      · rcases endsValue_cases hc with rfl | rfl | rfl <;> simp
      · rcases endsValue_cases hc with rfl | rfl | rfl <;> simp
    obtain ⟨quote, more, heq, hquote⟩ := exists_writeString t
    have hvalue : readValue? depth (quote :: (more ++ c :: rest)) =
        (readString? (quote :: (more ++ c :: rest))).map fun read => (.string read.1, read.2) := by
      rcases hquote with rfl | rfl <;> cases depth <;> rfl
    rw [heq] at hread ⊢
    rw [List.cons_append] at hread ⊢
    rw [hvalue, hread]
    rfl

/-! ## Arrays -/

/-- Where a value begins, the gap in front of it ends. -/
theorem skipGaps?_cons {c : Char} (h : beginsValue c = true ∨ endsValue c = true ∧ c ≠ '\n')
    (rest : Text) : skipGaps? false (c :: rest) = some (c :: rest) := by
  have hc : isLineBlank c = false ∧ c ≠ '\n' ∧ c ≠ '\r' ∧ c ≠ '#' := by
    rcases h with h | ⟨h, hbreak⟩
    · simp_all [beginsValue]
    · rcases endsValue_cases h with rfl | rfl | rfl
      · exact absurd rfl hbreak
      · decide
      · decide
  obtain ⟨hblank, hbreak, hreturn, hsign⟩ := hc
  rw [skipGaps?.eq_def]
  split <;> simp_all

/-- A gap of blanks and line breaks is passed over. -/
theorem skipGaps?_append {gap : Text} (h : ∀ c ∈ gap, c = ' ' ∨ c = '\n') (rest : Text) :
    skipGaps? false (gap ++ rest) = skipGaps? false rest := by
  induction gap with
  | nil => rfl
  | cons c gap ih =>
      rw [List.forall_mem_cons] at h
      rw [← ih h.2]
      rcases h.1 with rfl | rfl <;> rfl

section items

variable {depth : Nat} {gap written : Text} {value : Toml}

/-- An array ends at its closing bracket. -/
theorem readItems?_close (readItem : Text → Option (Toml × Text))
    (hgap : ∀ c ∈ gap, c = ' ' ∨ c = '\n') (rest : Text) :
    readItems? readItem (gap ++ ']' :: rest) = some ([], rest) := by
  rw [readItems?, skipGaps?_append hgap, skipGaps?_cons (Or.inr ⟨rfl, by decide⟩)]
  rfl

/-- What an item begins with is reached behind the gap in front of it. -/
theorem Denotes.skipGaps? (h : Denotes depth written value)
    (hgap : ∀ c ∈ gap, c = ' ' ∨ c = '\n') (rest : Text) :
    skipGaps? false (gap ++ (written ++ rest)) = some (written ++ rest) := by
  obtain ⟨c, more, rfl, hc⟩ := h.front
  rw [skipGaps?_append hgap, List.cons_append, skipGaps?_cons (Or.inl hc)]

/-- The first item of an array, with what is read behind it. -/
theorem Denotes.readItems? (h : Denotes depth written value)
    (hgap : ∀ c ∈ gap, c = ' ' ∨ c = '\n') {c : Char} (hc : c = ',' ∨ c = ']') (rest : Text) :
    readItems? (readValue? depth) (gap ++ (written ++ c :: rest)) =
      if c = ',' then
        (readItems? (readValue? depth) rest).map fun (items, rest) => (value :: items, rest)
      else some ([value], rest) := by
  have hends : endsValue c = true := by
    rcases hc with rfl | rfl <;> rfl
  have hnext : Toml.skipGaps? false (c :: rest) = some (c :: rest) := by
    apply skipGaps?_cons
    rcases hc with rfl | rfl <;> exact Or.inr ⟨rfl, by decide⟩
  have hfirst : ∀ tail, some (written ++ c :: rest) ≠ some (']' :: tail) := by
    intro tail heq
    obtain ⟨d, more, rfl, hd⟩ := h.front
    cases heq
    exact absurd hd (by decide)
  rw [Toml.readItems?, h.skipGaps? hgap]
  split
  case h_1 tail heq => exact absurd heq (hfirst tail)
  case h_2 start _ heq =>
    cases heq
    simp only [h.read c rest hends, hnext]
    rcases hc with rfl | rfl
    · have hshorter : rest.length < (gap ++ (written ++ ',' :: rest)).length := by
        simp only [List.length_append, List.length_cons]
        omega
      simp only [if_pos hshorter, if_true]
    · rfl
  case h_3 heq => cases heq

/-- An item on a line of its own. -/
def itemLine (item : Text) : Text :=
  "    " ++ item ++ ",\n"

/-- Items on lines of their own are read up to the closing bracket. -/
theorem readItems?_itemLines {items : List Text} {values : List Toml}
    (h : List.Forall₂ (Denotes depth) items values) (rest : Text) :
    readItems? (readValue? depth)
        ('\n' :: (items.flatMap itemLine ++ ']' :: rest)) =
      some (values, rest) := by
  induction h with
  | nil =>
      have hgap : ∀ c ∈ ['\n'], c = ' ' ∨ c = '\n' := by simp
      exact readItems?_close _ hgap rest
  | @cons item value items values hitem _ ih =>
      have hgap : ∀ c ∈ ['\n', ' ', ' ', ' ', ' '], c = ' ' ∨ c = '\n' := by simp
      have hread := hitem.readItems? hgap (Or.inl rfl)
        ('\n' :: (items.flatMap itemLine ++ ']' :: rest))
      rw [if_pos rfl, ih] at hread
      rw [List.flatMap_cons, itemLine]
      simp only [List.append_assoc]
      exact hread

/-- Two brackets are read as the empty array. -/
theorem denotes_emptyArray (depth : Nat) : Denotes (depth + 1) "[]" (.array []) where
  front := ⟨'[', _, rfl, rfl⟩
  read c rest _ := by
    change (readItems? (readValue? depth) ([] ++ ']' :: c :: rest)).map _ = _
    rw [readItems?_close _ (by simp)]
    rfl

/-- A value between brackets is read as an array of one item. -/
theorem Denotes.singletonArray (h : Denotes depth written value) :
    Denotes (depth + 1) ("[" ++ written ++ "]") (.array [value]) where
  front := ⟨'[', _, rfl, rfl⟩
  read c rest _ := by
    have hread := h.readItems? (List.forall_mem_nil _) (Or.inr rfl) (c :: rest)
    rw [List.append_assoc, List.append_assoc]
    change (Toml.readItems? (readValue? depth) ([] ++ (written ++ ']' :: c :: rest))).map _ = _
    rw [hread]
    rfl

/-- Items on lines of their own between brackets are read as an array. -/
theorem denotes_array {items : List Text} {values : List Toml}
    (h : List.Forall₂ (Denotes depth) items values) :
    Denotes (depth + 1) ("[\n" ++ items.flatMap itemLine ++ "]") (.array values) where
  front := ⟨'[', _, rfl, rfl⟩
  read c rest _ := by
    have hread := readItems?_itemLines h (c :: rest)
    rw [List.append_assoc, List.append_assoc]
    change (Toml.readItems? (readValue? depth) ('\n' :: (_ ++ ']' :: c :: rest))).map _ = _
    rw [hread]
    rfl

end items

/-! ## Lines -/

/-- A line with a key and a value. -/
def pairLine (pair : Text × Text) : Text :=
  pair.1 ++ " = " ++ pair.2 ++ "\n"

/-- A word that can be a key without quotes. -/
def IsKey (key : Text) : Prop :=
  key ≠ [] ∧ ∀ c ∈ key, isKeyChar c = true

/-- A new key is added behind the others. -/
theorem alter_of_notMem {key : Text} {entries : Entries} (h : key ∉ entries.map Prod.fst)
    {change : Option Toml → Option Toml} {value : Toml} (hchange : change none = some value) :
    alter key change entries = some (entries ++ [(key, value)]) := by
  induction entries with
  | nil =>
      rw [alter, hchange]
      rfl
  | cons entry entries ih =>
      obtain ⟨other, old⟩ := entry
      rw [List.map_cons, List.mem_cons, not_or] at h
      rw [alter, if_neg (Ne.symm h.1), ih h.2]
      rfl

/-- A character of keys differs from every other one. -/
theorem ne_of_isKeyChar {c d : Char} (hc : isKeyChar c = true) (hd : isKeyChar d = false) :
    c ≠ d := by
  rintro rfl
  cases hc.symm.trans hd

/-- A key without quotes ends at the first character that is not of a key. -/
theorem readKeyPart?_append {key : Text} (hkey : IsKey key) {c : Char} (hc : isKeyChar c = false)
    (rest : Text) : readKeyPart? (key ++ c :: rest) = some (key, c :: rest) := by
  obtain ⟨hne, hchars⟩ := hkey
  have htake : (key ++ c :: rest).takeWhile isKeyChar = key := by
    rw [List.takeWhile_append_of_pos hchars, List.takeWhile_cons_of_neg (by simp [hc]),
      List.append_nil]
  have hdrop : (key ++ c :: rest).dropWhile isKeyChar = c :: rest := by
    rw [List.dropWhile_append_of_pos hchars, List.dropWhile_cons_of_neg (by simp [hc])]
  obtain ⟨first, others, rfl⟩ := List.exists_cons_of_ne_nil hne
  have hfirst := hchars first List.mem_cons_self
  unfold readKeyPart?
  split
  case h_1 heq =>
    cases heq
    exact absurd hfirst (by decide)
  case h_2 heq =>
    cases heq
    exact absurd hfirst (by decide)
  case h_3 =>
    rw [htake, hdrop]
    rfl

/-- There are no blanks to skip in front of a key. -/
theorem skipBlanks_append {key : Text} (hkey : IsKey key) (rest : Text) :
    skipBlanks (key ++ rest) = key ++ rest := by
  obtain ⟨first, others, rfl⟩ := List.exists_cons_of_ne_nil hkey.1
  have hfirst := hkey.2 first List.mem_cons_self
  apply skipBlanks_cons
  rw [isLineBlank, Bool.or_eq_false_iff, beq_eq_false_iff_ne, beq_eq_false_iff_ne]
  exact ⟨ne_of_isKeyChar hfirst (by decide), ne_of_isKeyChar hfirst (by decide)⟩

/-- A key is read up to its equals sign. -/
theorem readKey?_append {key : Text} (hkey : IsKey key) (parts : Nat) (rest : Text) :
    readKey? (parts + 1) (key ++ ' ' :: '=' :: rest) = some ([key], '=' :: rest) := by
  rw [readKey?, skipBlanks_append hkey, readKeyPart?_append hkey (by decide)]
  rfl

/-- The space in front of a value is skipped, and no more. -/
theorem Denotes.skipBlanks {depth : Nat} {written : Text} {value : Toml}
    (h : Denotes depth written value) (rest : Text) :
    skipBlanks (' ' :: (written ++ rest)) = written ++ rest := by
  obtain ⟨c, more, rfl, hc⟩ := h.front
  have hblank : isLineBlank c = false := by
    simp only [beginsValue, Bool.not_eq_true', Bool.or_eq_false_iff] at hc
    exact hc.1.1.1.1
  exact skipBlanks_cons hblank (more ++ rest)

/-- A key and its value are read up to the end of their line. -/
theorem readPair?_append {key : Text} (hkey : IsKey key) {written : Text} {value : Toml}
    (h : Denotes maxDepth written value) (rest : Text) :
    readPair? (readValue? maxDepth) (key ++ ' ' :: '=' :: ' ' :: (written ++ '\n' :: rest)) =
      some ([key], value, '\n' :: rest) := by
  have hread : readKey? maxDepth (key ++ ' ' :: '=' :: ' ' :: (written ++ '\n' :: rest)) =
      some ([key], '=' :: ' ' :: (written ++ '\n' :: rest)) :=
    readKey?_append hkey _ _
  rw [readPair?, hread]
  change (readValue? maxDepth (skipBlanks (' ' :: (written ++ '\n' :: rest)))).bind _ = _
  rw [h.skipBlanks, h.read '\n' rest rfl]
  rfl

/-- A key and a written value give an entry. -/
structure Gives (pair : Text × Text) (entry : Text × Toml) : Prop where
  key : pair.1 = entry.1
  isKey : IsKey entry.1
  denotes : Denotes maxDepth pair.2 entry.2

/-- A line adds its entry. -/
theorem Gives.readLine? {pair : Text × Text} {entry : Text × Toml} (h : Gives pair entry)
    {before : Entries} (hnew : entry.1 ∉ before.map Prod.fst) (rest : Text) :
    readLine? { entries := before } (pairLine pair ++ rest) =
      some ({ entries := before ++ [entry] }, rest) := by
  obtain ⟨key, written⟩ := pair
  obtain ⟨_, value⟩ := entry
  obtain ⟨rfl, hkey, hdenotes⟩ := h
  have hline : pairLine (key, written) ++ rest =
      key ++ ' ' :: '=' :: ' ' :: (written ++ '\n' :: rest) := by
    simp only [pairLine, List.append_assoc]
    rfl
  have hinsert : alterAlong (insert value [key]) [] before = some (before ++ [(key, value)]) :=
    alter_of_notMem hnew rfl
  have hread := readPair?_append hkey hdenotes rest
  have hblanks := skipBlanks_append hkey (' ' :: '=' :: ' ' :: (written ++ '\n' :: rest))
  -- The line begins like a key, so it is none of the other kinds of line.
  obtain ⟨first, others, rfl⟩ := List.exists_cons_of_ne_nil hkey.1
  have hfirst : isKeyChar first = true := hkey.2 first List.mem_cons_self
  rw [hline, Toml.readLine?, hblanks]
  split
  case h_1 heq => cases heq
  case h_6 =>
    rw [hread]
    change (alterAlong (insert value [first :: others]) [] before).bind _ = _
    rw [hinsert]
    rfl
  all_goals
    rename_i heq
    rw [(List.cons.inj heq).1] at hfirst
    exact absurd hfirst (by decide)

/-- **Theorem.** Lines with different keys add their entries in order. -/
theorem readLines?_pairLines {pairs : List (Text × Text)} {entries : Entries}
    (h : List.Forall₂ Gives pairs entries) :
    ∀ {before : Entries}, ((before ++ entries).map Prod.fst).Nodup →
      readLines? { entries := before } (pairs.flatMap pairLine) =
        some { entries := before ++ entries } := by
  induction h with
  | nil =>
      intro before _
      rw [List.flatMap_nil, readLines?, List.append_nil]
      rfl
  | @cons pair entry pairs entries hpair _ ih =>
      intro before hkeys
      have hnew : entry.1 ∉ before.map Prod.fst := by
        rw [List.map_append, List.map_cons, List.nodup_append] at hkeys
        intro hmem
        exact hkeys.2.2 _ hmem _ List.mem_cons_self rfl
      have hpos : 0 < (pairLine pair).length := by
        simp [pairLine]
      have hne : (pairLine pair ++ pairs.flatMap pairLine).isEmpty = false := by
        rw [List.isEmpty_eq_false_iff, ← List.length_pos_iff, List.length_append]
        omega
      have hshorter : (pairs.flatMap pairLine).length <
          (pairLine pair ++ pairs.flatMap pairLine).length := by
        rw [List.length_append]
        omega
      rw [List.flatMap_cons, readLines?, hne, hpair.readLine? hnew]
      rw [List.append_cons] at hkeys
      rw [List.append_cons before entry entries]
      simp only [Bool.false_eq_true, if_false, if_pos hshorter]
      exact ih hkeys

/-- **Theorem.** A document of lines with different keys is read as its entries in order. -/
theorem read?_pairLines {pairs : List (Text × Text)} {entries : Entries}
    (h : List.Forall₂ Gives pairs entries) (hkeys : (entries.map Prod.fst).Nodup) :
    read? (pairs.flatMap pairLine) = some entries := by
  have hmark : Text.withoutMark (pairs.flatMap pairLine) = pairs.flatMap pairLine := by
    cases h with
    | nil => rfl
    | @cons pair entry pairs entries hpair _ =>
        obtain ⟨c, more, hcons⟩ := List.exists_cons_of_ne_nil hpair.isKey.1
        have hc : isKeyChar c = true := hpair.isKey.2 c (hcons ▸ List.mem_cons_self)
        rw [List.flatMap_cons, pairLine, hpair.key, hcons]
        rw [Text.withoutMark.eq_def]
        split
        case h_1 heq =>
          cases heq
          exact absurd hc (by decide)
        case h_2 => rfl
  have hlines := readLines?_pairLines h ((List.nil_append entries).symm ▸ hkeys)
  rw [read?, hmark, hlines]
  rfl

end DeclAtlas.Toml
