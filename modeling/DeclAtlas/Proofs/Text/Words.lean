import Mathlib
import DeclAtlas.Text.Basic

/-!
# Words, blanks and joined texts

How the words of a text depend on the way it is put together, and what trimming leaves.

* `words_join`: joining words with single spaces and splitting again gives the words back.
* `flatten_words`: the words hold the characters of a text in order, the blanks left out.
* `trimEnd_append`: behind a text that ends with another character, trimming takes away the blanks
  at the end.
* `trimEnd_join`: joined words leave nothing to trim.
* `exists_of_join_eq`: joined words are cut between two words.
-/

namespace DeclAtlas.Text

/-! ## Joining -/

/-- No pieces join to the empty text. -/
@[simp] theorem join_nil (separator : Text) : join separator [] = [] := rfl

/-- One piece joins to itself, without a separator. -/
@[simp] theorem join_singleton (separator piece : Text) : join separator [piece] = piece := by
  simp [join, List.intercalate]

/-- Between the first piece and the next ones stands one separator. -/
theorem join_cons_cons (separator piece next : Text) (pieces : List Text) :
    join separator (piece :: next :: pieces) =
      piece ++ separator ++ join separator (next :: pieces) := by
  simp [join, List.intercalate]

/-- Joining two lists of pieces puts one separator between them, if neither is empty. -/
theorem join_append (separator : Text) {a b : List Text} (ha : a ≠ []) (hb : b ≠ []) :
    join separator (a ++ b) = join separator a ++ separator ++ join separator b := by
  induction a with
  | nil => exact absurd rfl ha
  | cons piece rest ih =>
      obtain ⟨first, pieces, rfl⟩ := List.exists_cons_of_ne_nil hb
      cases rest with
      | nil => rw [List.singleton_append, join_cons_cons, join_singleton]
      | cons next rest =>
          rw [List.cons_append, List.cons_append, join_cons_cons, ← List.cons_append, ih (by simp),
            join_cons_cons]
          simp only [List.append_assoc]

/-- The characters of joined texts are those of the texts and of the separator. -/
theorem mem_join {separator : Text} {c : Char} :
    {pieces : List Text} → c ∈ join separator pieces →
      c ∈ separator ∨ ∃ piece ∈ pieces, c ∈ piece
  | [], h => absurd h List.not_mem_nil
  | [piece], h => by
      rw [join_singleton] at h
      exact Or.inr ⟨piece, List.mem_singleton_self piece, h⟩
  | piece :: next :: pieces, h => by
      rw [join_cons_cons, List.mem_append, List.mem_append] at h
      rcases h with (h | h) | h
      · exact Or.inr ⟨piece, List.mem_cons_self, h⟩
      · exact Or.inl h
      · rcases mem_join h with h | ⟨word, hword, hc⟩
        · exact Or.inl h
        · exact Or.inr ⟨word, List.mem_cons_of_mem piece hword, hc⟩

/-- Every piece stands in the joined text. -/
theorem infix_join (separator : Text) {piece : Text} :
    {pieces : List Text} → piece ∈ pieces → piece <:+: join separator pieces
  | [_], h => by
      rw [join_singleton, List.mem_singleton.1 h]
  | first :: next :: pieces, h => by
      rw [join_cons_cons]
      rcases List.mem_cons.1 h with rfl | h
      · exact ⟨[], separator ++ join separator (next :: pieces), by simp⟩
      · exact (infix_join separator h).trans (List.suffix_append _ _).isInfix

/-! ## Splitting -/

section splitting

variable {p : Char → Bool}

/-- Splitting gives at least one piece, which may be empty. -/
theorem splitWhere_ne_nil (p : Char → Bool) (t : Text) : splitWhere p t ≠ [] := by
  cases t with
  | nil => simp [splitWhere]
  | cons c t =>
      rw [splitWhere]
      split
      · simp
      · split <;> simp

/-- A character that does not split belongs to the first piece. -/
theorem splitWhere_cons_of_not {c : Char} (hc : p c = false) {t piece : Text} {pieces : List Text}
    (h : splitWhere p t = piece :: pieces) :
    splitWhere p (c :: t) = (c :: piece) :: pieces := by
  rw [splitWhere, h]
  simp [hc]

/-- A separator cuts the pieces of a text into those in front of it and those behind it. -/
theorem splitWhere_append_cons {c : Char} (hc : p c = true) (a b : Text) :
    splitWhere p (a ++ c :: b) = splitWhere p a ++ splitWhere p b := by
  induction a with
  | nil => simp [splitWhere, hc]
  | cons d a ih =>
      rcases hd : p d with _ | _
      · obtain ⟨piece, pieces, hpieces⟩ := List.exists_cons_of_ne_nil (splitWhere_ne_nil p a)
        have happend : splitWhere p (a ++ c :: b) = piece :: (pieces ++ splitWhere p b) := by
          rw [ih, hpieces, List.cons_append]
        rw [List.cons_append, splitWhere_cons_of_not hd happend, splitWhere_cons_of_not hd hpieces,
          List.cons_append]
      · simp [splitWhere, hd, ih]

/-- A text without separators is one piece. -/
theorem splitWhere_of_forall {t : Text} (ht : ∀ c ∈ t, p c = false) : splitWhere p t = [t] := by
  induction t with
  | nil => rfl
  | cons c t ih =>
      exact splitWhere_cons_of_not (ht c List.mem_cons_self)
        (ih fun d hd => ht d (List.mem_cons_of_mem c hd))

/-- A text without the character is not split. -/
theorem splitAtChar_of_notMem {c : Char} {t : Text} (ht : c ∉ t) : splitAtChar c t = [t] := by
  apply splitWhere_of_forall
  intro d hd
  rw [beq_eq_false_iff_ne]
  rintro rfl
  exact ht hd

/-- The first piece ends in front of the first such character. -/
theorem splitAtChar_append_cons {c : Char} {a : Text} (ha : c ∉ a) (b : Text) :
    splitAtChar c (a ++ c :: b) = a :: splitAtChar c b := by
  have hpiece := splitAtChar_of_notMem ha
  rw [splitAtChar] at hpiece ⊢
  rw [splitWhere_append_cons (p := (· == c)) (beq_self_eq_true c), hpiece]
  rfl

/-- The pieces with the separator between them are the text. -/
theorem join_splitAtChar (c : Char) (t : Text) : join [c] (splitAtChar c t) = t := by
  induction t with
  | nil => rfl
  | cons d t ih =>
      obtain ⟨piece, pieces, hpieces⟩ := List.exists_cons_of_ne_nil (splitWhere_ne_nil (· == c) t)
      rw [splitAtChar, hpieces] at ih
      by_cases hd : d = c
      · rw [splitAtChar, splitWhere, if_pos (beq_iff_eq.2 hd), hpieces, join_cons_cons, ih, hd]
        rfl
      · have hother : (d == c) = false := beq_eq_false_iff_ne.2 hd
        rw [splitAtChar, splitWhere_cons_of_not (p := (· == c)) hother hpieces]
        cases pieces with
        | nil => rw [join_singleton, ← ih, join_singleton]
        | cons next pieces =>
            rw [join_cons_cons] at ih ⊢
            rw [List.cons_append, List.cons_append, ih]

/-- Pieces without the separator are what is found between the separators. -/
theorem splitAtChar_join {c : Char} :
    {pieces : List Text} → pieces ≠ [] → (∀ piece ∈ pieces, c ∉ piece) →
      splitAtChar c (join [c] pieces) = pieces
  | [], hne, _ => absurd rfl hne
  | [piece], _, h => by
      rw [join_singleton, splitAtChar_of_notMem (h piece (List.mem_singleton_self piece))]
  | piece :: next :: pieces, _, h => by
      rw [join_cons_cons, List.append_assoc, List.singleton_append,
        splitAtChar_append_cons (h piece List.mem_cons_self),
        splitAtChar_join (List.cons_ne_nil _ _) fun piece' hpiece =>
          h piece' (List.mem_cons_of_mem piece hpiece)]

/-- No piece holds a separator. -/
theorem not_of_mem_splitWhere {t piece : Text} (hpiece : piece ∈ splitWhere p t) {c : Char}
    (hc : c ∈ piece) : p c = false := by
  induction t generalizing piece with
  | nil =>
      rw [splitWhere, List.mem_singleton] at hpiece
      subst hpiece
      exact absurd hc List.not_mem_nil
  | cons d t ih =>
      rcases hd : p d with _ | _
      · obtain ⟨front, pieces, hpieces⟩ := List.exists_cons_of_ne_nil (splitWhere_ne_nil p t)
        rw [splitWhere_cons_of_not hd hpieces] at hpiece
        rcases List.mem_cons.1 hpiece with rfl | hpiece
        · rcases List.mem_cons.1 hc with rfl | hc
          · exact hd
          · exact ih (hpieces ▸ List.mem_cons_self) hc
        · exact ih (hpieces ▸ List.mem_cons_of_mem front hpiece) hc
      · rw [splitWhere, if_pos hd] at hpiece
        rcases List.mem_cons.1 hpiece with rfl | hpiece
        · exact absurd hc List.not_mem_nil
        · exact ih hpiece hc

/-- Splitting loses the separators only. -/
theorem flatten_splitWhere (t : Text) :
    (splitWhere p t).flatten = t.filter fun c => !p c := by
  induction t with
  | nil => rfl
  | cons c t ih =>
      cases hc : p c with
      | true => simpa [splitWhere, hc] using ih
      | false =>
          obtain ⟨piece, pieces, hpieces⟩ := List.exists_cons_of_ne_nil (splitWhere_ne_nil p t)
          rw [hpieces, List.flatten_cons] at ih
          rw [splitWhere_cons_of_not hc hpieces]
          simp [hc, ← ih]

end splitting

/-! ## Words -/

/-- The empty text has no words. -/
@[simp] theorem words_nil : words [] = [] := rfl

/-- There is no blank in a word. -/
theorem isBlank_of_mem_words {t word : Text} (hword : word ∈ words t) {c : Char} (hc : c ∈ word) :
    isBlank c = false :=
  not_of_mem_splitWhere (List.mem_filter.1 hword).1 hc

/-- A blank ends the words in front of it. -/
theorem words_append_cons {c : Char} (hc : isBlank c = true) (a b : Text) :
    words (a ++ c :: b) = words a ++ words b := by
  rw [words, splitWhere_append_cons hc, List.filter_append, words, words]

/-- A text without blanks is one word. -/
theorem words_of_forall {t : Text} (hne : t ≠ []) (ht : ∀ c ∈ t, isBlank c = false) :
    words t = [t] := by
  rw [words, splitWhere_of_forall ht]
  simpa using hne

/-- Joining words with spaces and splitting again gives the words back. -/
theorem words_join :
    {words' : List Text} → (∀ word ∈ words', word ≠ [] ∧ ∀ c ∈ word, isBlank c = false) →
      words (join " " words') = words'
  | [], _ => rfl
  | [word], h => by
      obtain ⟨hne, hplain⟩ := h word (List.mem_singleton_self word)
      rw [join_singleton, words_of_forall hne hplain]
  | word :: next :: words', h => by
      obtain ⟨hne, hplain⟩ := h word List.mem_cons_self
      rw [join_cons_cons, List.append_assoc]
      change words (word ++ ' ' :: join " " (next :: words')) = _
      rw [words_append_cons (by decide), words_of_forall hne hplain,
        words_join fun w hw => h w (List.mem_cons_of_mem word hw)]
      rfl

/-- Blanks in front of a text do not change its words. -/
theorem words_blanks_append {a : Text} (ha : ∀ c ∈ a, isBlank c = true) (b : Text) :
    words (a ++ b) = words b := by
  induction a with
  | nil => rfl
  | cons c a ih =>
      have hstep := words_append_cons (ha c List.mem_cons_self) [] (a ++ b)
      rw [List.nil_append, words_nil, List.nil_append] at hstep
      rw [List.cons_append, hstep, ih fun d hd => ha d (List.mem_cons_of_mem c hd)]

/-- Blanks behind a text do not change its words. -/
theorem words_append_blanks (a : Text) {b : Text} (hb : ∀ c ∈ b, isBlank c = true) :
    words (a ++ b) = words a := by
  cases b with
  | nil => rw [List.append_nil]
  | cons c b =>
      have hrest := words_blanks_append (fun d hd => hb d (List.mem_cons_of_mem c hd)) []
      rw [List.append_nil] at hrest
      rw [words_append_cons (hb c List.mem_cons_self), hrest, words_nil, List.append_nil]

/-- The words of a text hold its characters in order, the blanks left out. -/
theorem flatten_words (t : Text) : (words t).flatten = t.filter fun c => !isBlank c := by
  rw [words, List.flatten_filter_not_isEmpty, flatten_splitWhere]

/-- The characters of a word are characters of the text. -/
theorem mem_of_mem_words {t word : Text} (hword : word ∈ words t) {c : Char} (hc : c ∈ word) :
    c ∈ t := by
  have hmem : c ∈ (words t).flatten := List.mem_flatten.2 ⟨word, hword, hc⟩
  rw [flatten_words] at hmem
  exact List.mem_of_mem_filter hmem

/-- A word is not empty and has no blanks: it is what `words_join` asks of a word. -/
theorem plain_of_mem_words {t word : Text} (h : word ∈ words t) :
    word ≠ [] ∧ ∀ c ∈ word, isBlank c = false :=
  ⟨by simpa using (List.mem_filter.1 h).2, fun _ hc => isBlank_of_mem_words h hc⟩

/-- A text that does not begin with a blank begins with its first word. -/
theorem exists_first_word {t word next : Text} {rest : List Text}
    (hhead : ∀ c ∈ t.head?, isBlank c = false) (h : words t = word :: next :: rest) :
    ∃ c behind, isBlank c = true ∧ t = word ++ c :: behind := by
  have hsplit := List.takeWhile_append_dropWhile (p := fun c => !isBlank c) (l := t)
  generalize hfront : t.takeWhile (fun c => !isBlank c) = front at hsplit
  have hplain : ∀ c ∈ front, isBlank c = false := by
    intro c hc
    have hnot := List.mem_takeWhile_imp (hfront ▸ hc)
    simpa using hnot
  have hfirst : front ≠ [] := by
    rintro rfl
    cases t with
    | nil => cases h
    | cons c t =>
        have hc := hhead c rfl
        simp [hc] at hfront
  cases hbehind : t.dropWhile (fun c => !isBlank c) with
  | nil =>
      rw [hbehind, List.append_nil] at hsplit
      rw [← hsplit, words_of_forall hfirst hplain] at h
      cases h
  | cons c behind =>
      have hc : isBlank c = true := by
        have hnot := List.head?_dropWhile_not (fun c => !isBlank c) t
        rw [hbehind] at hnot
        simpa using hnot
      rw [hbehind] at hsplit
      rw [← hsplit, words_append_cons hc, words_of_forall hfirst hplain] at h
      obtain ⟨rfl, -⟩ := List.cons.inj h
      exact ⟨c, behind, hc, hsplit.symm⟩

/-! ## Trimming -/

/-- A text that starts with no blank keeps its start. -/
theorem trimStart_of_head {c : Char} (hc : isBlank c = false) (t : Text) :
    trimStart (c :: t) = c :: t := by
  simp [trimStart, hc]

/-- Blanks in front of a text are trimmed away. -/
theorem trimStart_blanks_append {a : Text} (ha : ∀ c ∈ a, isBlank c = true) (b : Text) :
    trimStart (a ++ b) = trimStart b := by
  induction a with
  | nil => rfl
  | cons c a ih =>
      have hc : isBlank c = true := ha c List.mem_cons_self
      have hstep : trimStart (c :: (a ++ b)) = trimStart (a ++ b) := by simp [trimStart, hc]
      rw [List.cons_append, hstep, ih fun d hd => ha d (List.mem_cons_of_mem c hd)]

/-- In front of another character, only what stands before it is trimmed. -/
theorem trimStart_append_cons {c : Char} (hc : isBlank c = false) (a b : Text) :
    trimStart (a ++ c :: b) = trimStart a ++ c :: b := by
  rw [trimStart, List.dropWhile_append]
  split_ifs with hempty
  · rw [trimStart, List.isEmpty_iff.1 hempty, List.nil_append]
    exact trimStart_of_head hc b
  · rfl

/-- The end of a text is trimmed as the start of the reversed one. -/
theorem trimEnd_eq (t : Text) : trimEnd t = (trimStart t.reverse).reverse := rfl

/-- Blanks behind a text are trimmed away. -/
theorem trimEnd_append_blanks {b : Text} (hb : ∀ c ∈ b, isBlank c = true) (a : Text) :
    trimEnd (a ++ b) = trimEnd a := by
  rw [trimEnd_eq, List.reverse_append, trimStart_blanks_append (by simpa using hb), trimEnd_eq]

/-- A space in front of a text is trimmed away. -/
@[simp] theorem trimStart_cons_space (t : Text) : trimStart (' ' :: t) = trimStart t := rfl

/-- A space behind a text is trimmed away. -/
@[simp] theorem trimEnd_append_space (t : Text) : trimEnd (t ++ [' ']) = trimEnd t := by
  rw [trimEnd_eq, List.reverse_append, List.reverse_singleton, List.singleton_append,
    trimStart_cons_space, trimEnd_eq]

/-- A text that ends with no blank keeps its end. -/
theorem trimEnd_of_last {c : Char} (hc : isBlank c = false) (t : Text) :
    trimEnd (t ++ [c]) = t ++ [c] := by
  rw [trimEnd_eq, List.reverse_append, List.reverse_singleton, List.singleton_append,
    trimStart_of_head hc, List.reverse_cons, List.reverse_reverse]

/-- Trimming the start adds no character. -/
theorem mem_of_mem_trimStart {t : Text} {c : Char} (h : c ∈ trimStart t) : c ∈ t :=
  (List.dropWhile_sublist isBlank).subset h

/-- Trimming the end adds no character. -/
theorem mem_of_mem_trimEnd {t : Text} {c : Char} (h : c ∈ trimEnd t) : c ∈ t := by
  rw [trimEnd_eq, List.mem_reverse] at h
  exact List.mem_reverse.1 (mem_of_mem_trimStart h)

/-- Trimming adds no character. -/
theorem mem_of_mem_trim {t : Text} {c : Char} (h : c ∈ trim t) : c ∈ t :=
  mem_of_mem_trimStart (mem_of_mem_trimEnd h)

/-- What trimming takes off the front is blank. -/
theorem exists_trimStart (t : Text) :
    ∃ blanks, (∀ c ∈ blanks, isBlank c = true) ∧ t = blanks ++ trimStart t :=
  ⟨t.takeWhile isBlank, fun _ hc => List.mem_takeWhile_imp hc, List.takeWhile_append_dropWhile.symm⟩

/-- What trimming takes off the end is blank. -/
theorem exists_trimEnd (t : Text) :
    ∃ blanks, (∀ c ∈ blanks, isBlank c = true) ∧ t = trimEnd t ++ blanks := by
  obtain ⟨blanks, hblanks, heq⟩ := exists_trimStart t.reverse
  refine ⟨blanks.reverse, fun c hc => hblanks c (List.mem_reverse.1 hc), ?_⟩
  rw [trimEnd_eq, ← List.reverse_append, ← heq, List.reverse_reverse]

/-- A text without blanks keeps its end. -/
theorem trimEnd_of_forall {t : Text} (ht : ∀ c ∈ t, isBlank c = false) : trimEnd t = t := by
  rcases List.eq_nil_or_concat' t with rfl | ⟨front, c, rfl⟩
  · rfl
  · exact trimEnd_of_last (ht c (by simp)) front

/-- A text without blanks keeps its start. -/
theorem trimStart_of_forall {t : Text} (ht : ∀ c ∈ t, isBlank c = false) : trimStart t = t := by
  cases t with
  | nil => rfl
  | cons c t => exact trimStart_of_head (ht c List.mem_cons_self) t

/-- What is left at the end is not blank. -/
theorem isBlank_of_trimEnd {t front : Text} {c : Char} (h : trimEnd t = front ++ [c]) :
    isBlank c = false := by
  have hhead : t.reverse.dropWhile isBlank = c :: front.reverse := by
    rw [trimEnd, List.reverse_eq_iff] at h
    simpa using h
  have hnot := List.head?_dropWhile_not isBlank t.reverse
  rw [hhead] at hnot
  simpa using hnot

/-- Trimming the end twice is trimming it once. -/
@[simp] theorem trimEnd_trimEnd (t : Text) : trimEnd (trimEnd t) = trimEnd t := by
  rcases List.eq_nil_or_concat' (trimEnd t) with hnil | ⟨front, c, hlast⟩
  · rw [hnil]
    rfl
  · rw [hlast, trimEnd_of_last (isBlank_of_trimEnd hlast)]

/-- Behind a text that ends with another character, only what follows is trimmed. -/
theorem trimEnd_append {a : Text} (ha : trimEnd a = a) (b : Text) :
    trimEnd (a ++ b) = a ++ trimEnd b := by
  obtain ⟨blanks, hblanks, heq⟩ := exists_trimEnd b
  conv_lhs => rw [heq, ← List.append_assoc, trimEnd_append_blanks hblanks]
  rcases List.eq_nil_or_concat' (trimEnd b) with hnil | ⟨front, c, hlast⟩
  · rw [hnil, List.append_nil, ha]
  · rw [hlast, ← List.append_assoc, trimEnd_of_last (isBlank_of_trimEnd hlast)]

/-- A text that ends with another character keeps what stands in front of it. -/
theorem trimEnd_append_self {b : Text} (hb : trimEnd b = b) (hne : b ≠ []) (a : Text) :
    trimEnd (a ++ b) = a ++ b := by
  rcases List.eq_nil_or_concat' b with rfl | ⟨front, c, rfl⟩
  · exact absurd rfl hne
  · rw [← List.append_assoc, trimEnd_of_last (isBlank_of_trimEnd hb)]

/-- If something is left of the last part, the text in front of it is not trimmed. -/
theorem trimEnd_append_of_ne_nil {b : Text} (hb : trimEnd b ≠ []) (a : Text) :
    trimEnd (a ++ b) = a ++ trimEnd b := by
  obtain ⟨blanks, hblanks, heq⟩ := exists_trimEnd b
  conv_lhs => rw [heq, ← List.append_assoc, trimEnd_append_blanks hblanks]
  exact trimEnd_append_self (trimEnd_trimEnd b) hb a

/-- Of a text with a character that is no blank something is left. -/
theorem trimEnd_ne_nil {t : Text} {c : Char} (hc : c ∈ t) (hblank : isBlank c = false) :
    trimEnd t ≠ [] := by
  intro hnil
  obtain ⟨blanks, hblanks, heq⟩ := exists_trimEnd t
  rw [hnil, List.nil_append] at heq
  rw [hblanks c (heq ▸ hc)] at hblank
  cases hblank

/-- A text with its end trimmed is a first part of the text. -/
theorem trimEnd_prefix_self (t : Text) : trimEnd t <+: t := by
  obtain ⟨blanks, -, heq⟩ := exists_trimEnd t
  exact ⟨blanks, heq.symm⟩

/-- Trimming the end does not change the words. -/
theorem words_trimEnd (t : Text) : words (trimEnd t) = words t := by
  obtain ⟨blanks, hblanks, heq⟩ := exists_trimEnd t
  conv_rhs => rw [heq, words_append_blanks _ hblanks]

/-- A trimmed text keeps its start. -/
theorem trimStart_of_trim {t : Text} (h : trim t = t) : trimStart t = t := by
  have hsuffix : trimStart t <:+ t := List.dropWhile_suffix isBlank
  refine hsuffix.eq_of_length_le ?_
  have hlength := (trimEnd_prefix_self (trimStart t)).length_le
  rwa [show trimEnd (trimStart t) = t from h] at hlength

/-- A trimmed text keeps its end. -/
theorem trimEnd_of_trim {t : Text} (h : trim t = t) : trimEnd t = t := by
  conv_lhs => rw [← h, trim, trimEnd_trimEnd]
  exact h

/-- A trimmed text stands in the text. -/
theorem trim_infix_self (t : Text) : trim t <:+: t :=
  (trimEnd_prefix_self (trimStart t)).isInfix.trans (List.dropWhile_suffix isBlank).isInfix

/-- A trimmed text does not start with a blank. -/
theorem isBlank_of_head?_trim {t : Text} {c : Char} (h : c ∈ (trim t).head?) :
    isBlank c = false := by
  obtain ⟨rest, heq⟩ := List.head?_eq_some_iff.1 h
  obtain ⟨blanks, -, hstart⟩ := exists_trimEnd (trimStart t)
  have hnot := List.head?_dropWhile_not isBlank t
  rw [show t.dropWhile isBlank = trimStart t from rfl, hstart,
    show trimEnd (trimStart t) = c :: rest from heq] at hnot
  simpa using hnot

/-- A trimmed text does not end with a blank. -/
theorem isBlank_of_getLast?_trim {t : Text} {c : Char} (h : c ∈ (trim t).getLast?) :
    isBlank c = false := by
  obtain ⟨front, heq⟩ := List.getLast?_eq_some_iff.1 h
  exact isBlank_of_trimEnd heq

/-- A text without blanks at its ends is trimmed. -/
theorem trim_of_ends {t : Text} (hhead : ∀ c ∈ t.head?, isBlank c = false)
    (hlast : ∀ c ∈ t.getLast?, isBlank c = false) : trim t = t := by
  have hstart : trimStart t = t := by
    cases t with
    | nil => rfl
    | cons c t => exact trimStart_of_head (hhead c rfl) t
  rw [trim, hstart]
  rcases List.eq_nil_or_concat' t with rfl | ⟨front, c, rfl⟩
  · rfl
  · exact trimEnd_of_last (hlast c List.getLast?_concat) front

/-- Blanks around a text do not matter. -/
theorem trim_between_blanks {a b : Text} (ha : ∀ c ∈ a, isBlank c = true)
    (hb : ∀ c ∈ b, isBlank c = true) (t : Text) : trim (a ++ t ++ b) = trim t := by
  rw [trim, List.append_assoc, trimStart_blanks_append ha, trimStart, List.dropWhile_append, trim,
    trimStart]
  split_ifs with hempty
  · rw [List.dropWhile_eq_nil_iff.2 hb, List.isEmpty_iff.1 hempty]
  · exact trimEnd_append_blanks hb _

/-! ## Joined words are trimmed -/

section joined

variable {words' : List Text}
  (h : ∀ word ∈ words', word ≠ [] ∧ ∀ c ∈ word, isBlank c = false)

include h

/-- Words join to a text that is not empty. -/
theorem join_ne_nil (hne : words' ≠ []) : join " " words' ≠ [] := by
  intro hnil
  have hwords := words_join h
  rw [hnil, words_nil] at hwords
  exact hne hwords.symm

/-- Joined words have no blank at their end. -/
theorem trimEnd_join : trimEnd (join " " words') = join " " words' := by
  induction words' with
  | nil => rfl
  | cons word rest ih =>
      have hrest := fun w hw => h w (List.mem_cons_of_mem word hw)
      cases rest with
      | nil =>
          rw [join_singleton]
          exact trimEnd_of_forall (h word List.mem_cons_self).2
      | cons next rest =>
          rw [join_cons_cons]
          exact trimEnd_append_self (ih hrest) (join_ne_nil hrest (by simp)) _

/-- Joined words end with a character that is no blank. -/
theorem exists_getLast?_join (hne : words' ≠ []) :
    ∃ c, (join " " words').getLast? = some c ∧ isBlank c = false := by
  rcases List.eq_nil_or_concat' (join " " words') with hnil | ⟨front, c, hlast⟩
  · exact absurd hnil (join_ne_nil h hne)
  · have htrim := trimEnd_join h
    rw [hlast] at htrim
    exact ⟨c, by rw [hlast, List.getLast?_concat], isBlank_of_trimEnd htrim⟩

/-- Joined words start with a character that is no blank. -/
theorem exists_head?_join (hne : words' ≠ []) :
    ∃ c, (join " " words').head? = some c ∧ isBlank c = false := by
  obtain ⟨word, rest, rfl⟩ := List.exists_cons_of_ne_nil hne
  obtain ⟨hword, hplain⟩ := h word List.mem_cons_self
  obtain ⟨c, word, rfl⟩ := List.exists_cons_of_ne_nil hword
  refine ⟨c, ?_, hplain c List.mem_cons_self⟩
  cases rest with
  | nil => rw [join_singleton, List.head?_cons]
  | cons next rest => rw [join_cons_cons, List.cons_append, List.cons_append, List.head?_cons]

end joined

/-! ## Cutting at a space -/

/-- The places of a space in a text that has one. -/
theorem cut_cases {front rest a b : Text} (h : front ++ ' ' :: rest = a ++ ' ' :: b) :
    (∃ c, front = a ++ ' ' :: c ∧ b = c ++ ' ' :: rest) ∨ (a = front ∧ b = rest) ∨
      ∃ c, a = front ++ ' ' :: c ∧ rest = c ++ ' ' :: b := by
  rcases List.append_eq_append_iff.1 h with ⟨c, rfl, hc⟩ | ⟨c, rfl, hc⟩
  · cases c with
    | nil =>
        rw [List.nil_append] at hc
        exact Or.inr (Or.inl ⟨List.append_nil _, (List.cons.inj hc).2.symm⟩)
    | cons d c =>
        obtain ⟨rfl, rfl⟩ := List.cons.inj hc
        exact Or.inr (Or.inr ⟨c, rfl, rfl⟩)
  · cases c with
    | nil =>
        rw [List.nil_append] at hc
        exact Or.inr (Or.inl ⟨(List.append_nil _).symm, (List.cons.inj hc).2⟩)
    | cons d c =>
        obtain ⟨rfl, rfl⟩ := List.cons.inj hc
        exact Or.inl ⟨c, rfl, rfl⟩

/-- A text of words is cut between two words. -/
theorem exists_of_join_eq :
    {words' : List Text} → (∀ word ∈ words', ' ' ∉ word) → {x y : Text} →
      join " " words' = x ++ ' ' :: y →
      ∃ a b, a ≠ [] ∧ b ≠ [] ∧ words' = a ++ b ∧ x = join " " a ∧ y = join " " b
  | [], _, _, _, h => by simp at h
  | [word], hwords, x, y, h => by
      rw [join_singleton] at h
      exact absurd (by rw [h]; simp) (hwords word (List.mem_singleton_self word))
  | word :: next :: words', hwords, x, y, h => by
      rw [join_cons_cons, List.append_assoc] at h
      change word ++ ' ' :: join " " (next :: words') = x ++ ' ' :: y at h
      rcases cut_cases h with ⟨c, rfl, -⟩ | ⟨rfl, rfl⟩ | ⟨c, rfl, hc⟩
      · exact absurd (by simp) (hwords _ List.mem_cons_self)
      · exact ⟨[x], next :: words', by simp, by simp, rfl, (join_singleton _ x).symm, rfl⟩
      · obtain ⟨a, b, ha, hb, heq, rfl, rfl⟩ :=
          exists_of_join_eq (fun w hw => hwords w (List.mem_cons_of_mem word hw)) hc
        refine ⟨word :: a, b, by simp, hb, by rw [heq, List.cons_append], ?_, rfl⟩
        obtain ⟨first, rest, rfl⟩ := List.exists_cons_of_ne_nil ha
        rw [join_cons_cons, List.append_assoc]
        rfl

end DeclAtlas.Text
