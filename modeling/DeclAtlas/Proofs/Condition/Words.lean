import Mathlib
import DeclAtlas.Proofs.Condition.Grammar

/-!
# The words of a condition

Splitting a condition into words loses nothing but separators and closing parentheses, and it splits
no more than it has to.

`Cut t words` says by rules what the words of a text are: separators and closing parentheses are
dropped, an operator is a word wherever the reader meets it, and any other word reaches up to the
next of these.  The rules speak of the text behind a word and know nothing of the word that is being
collected.

* `cut_words`, `Cut.words_eq`: `words t` is the one list that the rules allow.
* `Cut.locate`: each word has its place in the text, with the words in front of it and behind it cut
  from what stands there.
* **Theorem** (`words_lossless`): the words make up the text without what is dropped; none is empty,
  none but the operators holds an operator, and two neighbours that are no operators have something
  between them that was dropped.
-/

namespace DeclAtlas.Condition

/-! ## Cutting a text into words -/

/-- The characters that are part of no word. -/
def dropped : List Char :=
  [' ', '\t', '\n', '\x0c', '\r', ')']

/-- Whether a word is one of the operators. -/
def IsOperator (word : Text) : Prop :=
  word = "&&".toList ∨ word = "||".toList

/-- The operators as words. -/
theorem isOperator_iff {word : Text} :
    IsOperator word ↔ ∃ operator : Operator, word = operator.text := by
  constructor
  · rintro (h | h)
    · exact ⟨.conjunction, h⟩
    · exact ⟨.disjunction, h⟩
  · rintro ⟨operator, rfl⟩
    cases operator with
    | conjunction => exact Or.inl rfl
    | disjunction => exact Or.inr rfl

/-- No operator stands in the word or begins with its last character. -/
def Unbroken (word rest : Text) : Prop :=
  ∀ operator : Operator, ¬ operator.text <:+: word ++ rest.take 1

/-- A word ends in front of this text. -/
inductive EndsWord : Text → Prop
  | done : EndsWord []
  | dropped {c : Char} (hc : c ∈ dropped) (rest : Text) : EndsWord (c :: rest)
  | operator (operator : Operator) (rest : Text) : EndsWord (operator.text ++ rest)

/-- A text begins with a word that is no operator. -/
structure BeginsWord (word rest : Text) : Prop where
  /-- The word has a character. -/
  ne_nil : word ≠ []
  /-- Nothing in it is dropped. -/
  kept : ∀ c ∈ word, c ∉ dropped
  /-- No operator cuts it. -/
  unbroken : Unbroken word rest

/-- The words of a text. -/
inductive Cut : Text → List Text → Prop
  | done : Cut [] []
  | drop {c : Char} {t : Text} {words : List Text} (hc : c ∈ dropped) (h : Cut t words) :
      Cut (c :: t) words
  | operator (operator : Operator) {t : Text} {words : List Text} (h : Cut t words) :
      Cut (operator.text ++ t) (operator.text :: words)
  | word {word t : Text} {words : List Text} (hword : BeginsWord word t) (hend : EndsWord t)
      (h : Cut t words) : Cut (word ++ t) (word :: words)

/-! ## Operators and other words -/

/-- Separators and closing parentheses are part of no word. -/
theorem mem_dropped {c : Char} : c ∈ dropped ↔ (isSeparator c || c == ')') = true := by
  simp [dropped, isSeparator, or_assoc]

/-- An operator is one character, written twice. -/
theorem Operator.exists_text (operator : Operator) :
    ∃ c, operator.text = [c, c] ∧ c ∉ Condition.dropped := by
  cases operator with
  | conjunction => exact ⟨'&', rfl, by decide⟩
  | disjunction => exact ⟨'|', rfl, by decide⟩

/-- An operator has two characters. -/
theorem Operator.length_text (operator : Operator) : operator.text.length = 2 := by
  cases operator <;> rfl

/-- An operator is not empty. -/
theorem Operator.text_ne_nil (operator : Operator) : operator.text ≠ [] := by
  cases operator <;> simp [Operator.text]

/-- No operator stands in the empty word. -/
theorem unbroken_nil (rest : Text) : Unbroken [] rest := by
  intro operator hfound
  have hlength := hfound.length_le
  rw [operator.length_text, List.nil_append, List.length_take] at hlength
  omega

/-- A character at which no operator begins does not break the word. -/
theorem Unbroken.concat {word rest : Text} {c : Char} (h : Unbroken word (c :: rest))
    (hnext : ∀ operator : Operator, ¬ operator.text <+: c :: rest) :
    Unbroken (word ++ [c]) rest := by
  intro operator hfound
  rcases rest with _ | ⟨d, rest⟩
  · exact h operator (by simpa using hfound)
  · rcases List.infix_concat_iff.1 hfound with hlast | hword
    · -- the operator would be the last character of the word and the one behind it
      obtain ⟨x, htext, -⟩ := operator.exists_text
      rw [htext, List.append_assoc] at hlast
      obtain ⟨front, hfront⟩ := hlast
      have hpair : [x, x] = [c, d] := (List.append_inj' hfront rfl).2
      refine hnext operator ?_
      rw [htext, hpair]
      exact List.prefix_append [c, d] rest
    · exact h operator hword

/-- A word that is cut by no operator does not begin with one. -/
theorem BeginsWord.not_begins {word rest : Text} (h : BeginsWord word rest) (operator : Operator) :
    ¬ operator.text <+: word ++ rest := by
  intro hbegins
  have hpos := List.length_pos_of_ne_nil h.ne_nil
  have hlength := hbegins.length_le
  have hshort : word ++ rest.take 1 <+: word ++ rest :=
    (List.prefix_append_right_inj word).2 (List.take_prefix 1 rest)
  refine h.unbroken operator (List.prefix_of_prefix_length_le hbegins hshort ?_).isInfix
  rw [operator.length_text, List.length_append] at *
  rw [List.length_take]
  omega

/-- No word ends where another begins. -/
theorem BeginsWord.not_endsWord {word rest : Text} (h : BeginsWord word rest) :
    ¬ EndsWord (word ++ rest) := by
  obtain ⟨c, tail, rfl⟩ := List.exists_cons_of_ne_nil h.ne_nil
  intro hend
  generalize htext : c :: tail ++ rest = t at hend
  cases hend with
  | done => cases htext
  | dropped hc behind =>
      obtain ⟨rfl, -⟩ := List.cons.inj htext
      exact h.kept c List.mem_cons_self hc
  | operator operator behind => exact h.not_begins operator ⟨behind, htext.symm⟩

/-! ## The words that are read -/

/-- A character that is part of no word ends the word. -/
theorem wordsFrom_cons_of_dropped {c : Char} (hc : c ∈ dropped) (word rest : Text) :
    wordsFrom word (c :: rest) = pendingWord word ++ wordsFrom [] rest := by
  rw [wordsFrom]
  · exact if_pos (mem_dropped.1 hc)
  · rintro _ rfl
    exact absurd hc (by decide)
  · rintro _ rfl
    exact absurd hc (by decide)

/-- Any other character at which no operator begins goes on with the word. -/
theorem wordsFrom_cons_of_kept {c : Char} {rest : Text} (hc : c ∉ dropped)
    (hnext : ∀ operator : Operator, ¬ operator.text <+: c :: rest) (word : Text) :
    wordsFrom word (c :: rest) = wordsFrom (word ++ [c]) rest := by
  rw [wordsFrom]
  · exact if_neg (mt mem_dropped.2 hc)
  · rintro behind rfl rfl
    exact hnext .conjunction ⟨behind, rfl⟩
  · rintro behind rfl rfl
    exact hnext .disjunction ⟨behind, rfl⟩

/-- The word that has been collected is cut off in front of a text at which it ends. -/
theorem Cut.pending {word t : Text} {words : List Text} (hkept : ∀ c ∈ word, c ∉ dropped)
    (hunbroken : Unbroken word t) (hend : EndsWord t) (h : Cut t words) :
    Cut (word ++ t) (pendingWord word ++ words) := by
  rcases eq_or_ne word [] with rfl | hne
  · exact h
  · rw [pendingWord_of_ne_nil hne]
    exact .word ⟨hne, hkept, hunbroken⟩ hend h

/-- A text is cut into its words, if one that has begun is unbroken. -/
theorem cut_wordsFrom {word : Text} (t : Text) (hkept : ∀ c ∈ word, c ∉ dropped)
    (hunbroken : Unbroken word t) : Cut (word ++ t) (wordsFrom word t) := by
  fun_induction wordsFrom word t with
  | case1 word =>
      simpa using Cut.pending hkept hunbroken .done .done
  | case2 word rest ih =>
      have hrest := ih (List.forall_mem_nil _) (unbroken_nil rest)
      exact .pending hkept hunbroken (.operator .conjunction rest) (.operator .conjunction hrest)
  | case3 word rest ih =>
      have hrest := ih (List.forall_mem_nil _) (unbroken_nil rest)
      exact .pending hkept hunbroken (.operator .disjunction rest) (.operator .disjunction hrest)
  | case4 word c rest hand hor hdropped ih =>
      have hc := mem_dropped.2 hdropped
      have hrest := ih (List.forall_mem_nil _) (unbroken_nil rest)
      exact .pending hkept hunbroken (.dropped hc rest) (.drop hc hrest)
  | case5 word c rest hand hor hdropped ih =>
      have hc : c ∉ dropped := mt mem_dropped.1 hdropped
      have hnext : ∀ operator : Operator, ¬ operator.text <+: c :: rest := by
        rintro (_ | _) ⟨behind, hbehind⟩
        · obtain ⟨rfl, rfl⟩ := List.cons.inj hbehind
          exact hand behind rfl rfl
        · obtain ⟨rfl, rfl⟩ := List.cons.inj hbehind
          exact hor behind rfl rfl
      have hlonger : ∀ d ∈ word ++ [c], d ∉ dropped :=
        List.forall_mem_append.2 ⟨hkept, List.forall_mem_singleton.2 hc⟩
      simpa using ih hlonger (hunbroken.concat hnext)

/-- The words that are read follow the rules. -/
theorem cut_words (t : Text) : Cut t (words t) :=
  cut_wordsFrom t (List.forall_mem_nil _) (unbroken_nil t)

/-- A word is read to its end. -/
theorem wordsFrom_append_of_unbroken {word rest : Text} (hkept : ∀ c ∈ word, c ∉ dropped)
    (hunbroken : Unbroken word rest) (front : Text) :
    wordsFrom front (word ++ rest) = wordsFrom (front ++ word) rest := by
  induction word generalizing front with
  | nil => rw [List.nil_append, List.append_nil]
  | cons c word ih =>
      have hbegins : BeginsWord (c :: word) rest := ⟨List.cons_ne_nil c word, hkept, hunbroken⟩
      have hrest : Unbroken word rest := fun operator hfound =>
        hunbroken operator (hfound.trans (List.suffix_cons c _).isInfix)
      have hfirst : wordsFrom front (c :: (word ++ rest)) =
          wordsFrom (front ++ [c]) (word ++ rest) :=
        wordsFrom_cons_of_kept (hkept c List.mem_cons_self) hbegins.not_begins front
      rw [List.cons_append, hfirst, ih (fun d hd => hkept d (List.mem_cons_of_mem c hd)) hrest,
        List.append_assoc]
      rfl

/-- A word ends where the words of the rest begin. -/
theorem wordsFrom_of_endsWord {t : Text} (h : EndsWord t) (word : Text) :
    wordsFrom word t = pendingWord word ++ words t := by
  cases h with
  | done => simp [words, wordsFrom]
  | dropped hc rest =>
      rw [words, wordsFrom_cons_of_dropped hc, wordsFrom_cons_of_dropped hc]
      rfl
  | operator operator rest =>
      rw [words, wordsFrom_operator, wordsFrom_operator]
      rfl

/-- The rules allow no other words than those that are read. -/
theorem Cut.words_eq {t : Text} {cut : List Text} (h : Cut t cut) : words t = cut := by
  induction h with
  | done => rfl
  | drop hc h ih => rw [words, wordsFrom_cons_of_dropped hc, ← ih]; rfl
  | operator operator h ih => rw [words, wordsFrom_operator, ← ih]; rfl
  | word hword hend h ih =>
      rw [words, wordsFrom_append_of_unbroken hword.kept hword.unbroken, List.nil_append,
        wordsFrom_of_endsWord hend, pendingWord_of_ne_nil hword.ne_nil, ih]
      rfl

/-! ## What the words hold -/

namespace Cut

variable {t : Text} {words : List Text}

/-- The words make up the text without what is dropped. -/
theorem flatten_eq (h : Cut t words) : words.flatten = t.filter (· ∉ dropped) := by
  induction h with
  | done => rfl
  | drop hc h ih => rw [List.filter_cons_of_neg (by simpa using hc), ih]
  | operator operator h ih =>
      obtain ⟨c, htext, hc⟩ := operator.exists_text
      rw [List.flatten_cons, ih, List.filter_append, htext]
      simp [hc]
  | word hword hend h ih =>
      have hall := List.filter_eq_self.2 fun c hc => decide_eq_true (hword.kept c hc)
      rw [List.flatten_cons, ih, List.filter_append, hall]

/-- No word is empty. -/
theorem ne_nil_of_mem (h : Cut t words) : ∀ word ∈ words, word ≠ [] := by
  induction h with
  | done => exact List.forall_mem_nil _
  | drop hc h ih => exact ih
  | operator operator h ih =>
      exact List.forall_mem_cons.2 ⟨operator.text_ne_nil, ih⟩
  | word hword hend h ih => exact List.forall_mem_cons.2 ⟨hword.ne_nil, ih⟩

/-- A word is an operator, or no operator stands in it. -/
theorem unbroken_of_mem (h : Cut t words) :
    ∀ word ∈ words, IsOperator word ∨ ∀ operator : Operator, ¬ operator.text <:+: word := by
  induction h with
  | done => exact List.forall_mem_nil _
  | drop hc h ih => exact ih
  | operator operator h ih =>
      exact List.forall_mem_cons.2 ⟨Or.inl (isOperator_iff.2 ⟨operator, rfl⟩), ih⟩
  | @word word rest words hword hend h ih =>
      refine List.forall_mem_cons.2 ⟨Or.inr fun operator hfound => ?_, ih⟩
      exact hword.unbroken operator (hfound.trans (List.prefix_append word _).isInfix)

/-- A text without words holds only what is dropped. -/
theorem forall_mem_dropped (h : Cut t []) : ∀ c ∈ t, c ∈ dropped := by
  intro c hc
  by_contra hkept
  have hmem : c ∈ t.filter (· ∉ dropped) := List.mem_filter.2 ⟨hc, decide_eq_true hkept⟩
  rw [← h.flatten_eq] at hmem
  cases hmem

/-- **Each word has its place in the text.**  Behind a word that is no operator a word ends, and
something that is dropped stands in front of it if a word ends there. -/
theorem locate {front back : List Text} {word : Text} (h : Cut t (front ++ word :: back)) :
    ∃ before behind, t = before ++ word ++ behind ∧ Cut before front ∧ Cut behind back ∧
      (EndsWord t → EndsWord before) ∧
      (¬ IsOperator word → EndsWord behind ∧ (EndsWord t → before ≠ [])) := by
  generalize hwords : front ++ word :: back = words at h
  induction h generalizing front with
  | done => simp at hwords
  | @drop c t words hc h ih =>
      obtain ⟨before, behind, rfl, hbefore, hbehind, -, hplain⟩ := ih hwords
      exact ⟨c :: before, behind, rfl, .drop hc hbefore, hbehind, fun _ => .dropped hc before,
        fun hword => ⟨(hplain hword).1, fun _ => List.cons_ne_nil c before⟩⟩
  | @operator operator t words h ih =>
      rcases front with _ | ⟨first, front⟩
      · obtain ⟨rfl, rfl⟩ := List.cons.inj hwords
        exact ⟨[], t, rfl, .done, h, fun _ => .done,
          fun hword => absurd (isOperator_iff.2 ⟨operator, rfl⟩) hword⟩
      · obtain ⟨rfl, htail⟩ := List.cons.inj hwords
        obtain ⟨before, behind, rfl, hbefore, hbehind, -, hplain⟩ := ih htail
        refine ⟨operator.text ++ before, behind, by simp, .operator operator hbefore, hbehind,
          fun _ => .operator operator before, fun hword => ⟨(hplain hword).1, fun _ => ?_⟩⟩
        exact List.append_ne_nil_of_left_ne_nil operator.text_ne_nil before
  | @word first t words hfirst hend h ih =>
      rcases front with _ | ⟨other, front⟩
      · obtain ⟨rfl, rfl⟩ := List.cons.inj hwords
        exact ⟨[], t, rfl, .done, h, fun _ => .done,
          fun _ => ⟨hend, fun hends => absurd hends hfirst.not_endsWord⟩⟩
      · obtain ⟨rfl, htail⟩ := List.cons.inj hwords
        obtain ⟨before, behind, rfl, hbefore, hbehind, hends, hplain⟩ := ih htail
        -- the first word ends in front of the shorter text too
        have hshort : BeginsWord other before := by
          refine ⟨hfirst.ne_nil, hfirst.kept, fun operator hfound => ?_⟩
          refine hfirst.unbroken operator (hfound.trans ?_)
          refine ((List.prefix_append_right_inj other).2 ?_).isInfix
          rw [List.append_assoc, List.take_append]
          exact List.prefix_append _ _
        exact ⟨other ++ before, behind, by simp, .word hshort (hends hend) hbefore, hbehind,
          fun hbegins => absurd hbegins hfirst.not_endsWord,
          fun hword => ⟨(hplain hword).1, fun hbegins => absurd hbegins hfirst.not_endsWord⟩⟩

/-- Two neighbours that are no operators have something between them that was dropped. -/
theorem separated {front back : List Text} {first second : Text}
    (h : Cut t (front ++ first :: second :: back)) (hfirst : ¬ IsOperator first)
    (hsecond : ¬ IsOperator second) :
    ∃ before gap behind, t = before ++ first ++ gap ++ second ++ behind ∧ gap ≠ [] ∧
      (∀ c ∈ gap, c ∈ dropped) ∧ Cut before front ∧ Cut behind back := by
  obtain ⟨before, rest, rfl, hbefore, hrest, -, hplain⟩ := h.locate
  have hend := (hplain hfirst).1
  have hrest : Cut rest ([] ++ second :: back) := hrest
  obtain ⟨gap, behind, rfl, hgap, hbehind, -, hplain⟩ := hrest.locate
  exact ⟨before, gap, behind, by simp, (hplain hsecond).2 hend, hgap.forall_mem_dropped, hbefore,
    hbehind⟩

end Cut

/-- **Splitting a condition into words is lossless and maximal.**  One after the other the words are
the text without separators and closing parentheses.  No word is empty, and no word but the
operators themselves holds an operator.  Two neighbouring words that are no operators stand in the
text with a gap between them, in which everything was dropped; what stands in front of the first and
behind the second gives the words there. -/
theorem words_lossless (t : Text) :
    (words t).flatten = t.filter (· ∉ dropped) ∧
      (∀ word ∈ words t, word ≠ []) ∧
      (∀ word ∈ words t, word ≠ "&&".toList → word ≠ "||".toList →
        ¬ "&&".toList <:+: word ∧ ¬ "||".toList <:+: word) ∧
      ∀ front first second back, words t = front ++ first :: second :: back →
        ¬ IsOperator first → ¬ IsOperator second →
          ∃ before gap behind, t = before ++ first ++ gap ++ second ++ behind ∧ gap ≠ [] ∧
            (∀ c ∈ gap, c ∈ dropped) ∧ words before = front ∧ words behind = back := by
  have hcut := cut_words t
  refine ⟨hcut.flatten_eq, hcut.ne_nil_of_mem, ?_, ?_⟩
  · intro word hword hand hor
    rcases hcut.unbroken_of_mem word hword with hoperator | hfree
    · exact absurd hoperator (not_or.2 ⟨hand, hor⟩)
    · exact ⟨hfree .conjunction, hfree .disjunction⟩
  · intro front first second back hwords hfirst hsecond
    rw [hwords] at hcut
    obtain ⟨before, gap, behind, ht, hne, hgap, hbefore, hbehind⟩ := hcut.separated hfirst hsecond
    exact ⟨before, gap, behind, ht, hne, hgap, hbefore.words_eq, hbehind.words_eq⟩

-- operators are taken from the left, and a single sign is a character like any other
example : words "a|b||c)d&&&".toList =
    ["a|b".toList, "||".toList, "c".toList, "d".toList, "&&".toList, "&".toList] := by decide

end DeclAtlas.Condition
