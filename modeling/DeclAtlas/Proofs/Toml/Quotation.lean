import Mathlib
import DeclAtlas.Toml.Quotation

/-!
# Strings that are written and read

A string is written in one of four forms, which its text decides.  Each form has its own reader, and
each reader its own characters that end a string or begin an escape.

**Theorem** (`readString?_writeString`): whatever the text is, the string that is written for it is
read as this text, and what follows is left over, unless a further quote follows.

Both readers of strings in double quotes understand escapes in the same way (`ReadsEscapes`), and
both readers of strings in three quotes end them in the same way (`ReadsTriple`).  In three quotes a
quote may stand for itself as long as no third one follows, so the proofs about them carry the run
of quotes that has been written but not been read yet.
-/

namespace DeclAtlas.Toml

/-! ## Escaped characters -/

/-- A character that is no control character may be written as it is. -/
theorem isPlain_of_not_isControl {c : Char} (h : isControl c = false) : isPlain c = true := by
  simp only [isControl, isPlain, Bool.or_eq_false_iff, Bool.and_eq_false_iff, Bool.or_eq_true,
    Bool.and_eq_true, decide_eq_false_iff_not, decide_eq_true_eq, beq_iff_eq, beq_eq_false_iff_ne,
    bne_iff_ne, bne_eq_false_iff_eq] at h ⊢
  rcases h with ⟨hlow | htab, hdelete⟩
  · exact Or.inr ⟨by omega, hdelete⟩
  · exact Or.inl htab

/-- All control characters have small codes. -/
theorem toNat_lt_of_isControl {c : Char} (h : isControl c = true) : c.toNat < 0x80 := by
  simp only [isControl, Bool.or_eq_true, Bool.and_eq_true, decide_eq_true_eq, beq_iff_eq] at h
  omega

/-- The four digits of a character from the lowest block of code points name it. -/
theorem charOfDigits?_fourDigits :
    ∀ n < 0x80, (fourDigits n).length = 4 ∧
      charOfDigits? (fourDigits n) = some (Char.ofNat n) := by
  decide +kernel

/-- In double quotes a character is written as a backslash with a letter, as a backslash with four
digits, or as itself. -/
theorem escapeChar_cases (c : Char) :
    (∃ letter, escapeChar c = ['\\', letter] ∧ charOfLetter? letter = some c) ∨
      (∃ w x y z, escapeChar c = ['\\', 'u', w, x, y, z] ∧
        charOfDigits? [w, x, y, z] = some c) ∨
      escapeChar c = [c] ∧ isPlain c = true ∧ c ≠ '\\' := by
  unfold escapeChar
  split
  · exact Or.inl ⟨'b', rfl, rfl⟩
  · exact Or.inl ⟨'t', rfl, rfl⟩
  · exact Or.inl ⟨'f', rfl, rfl⟩
  · exact Or.inl ⟨'r', rfl, rfl⟩
  · exact Or.inl ⟨'\\', rfl, rfl⟩
  · rename_i hbackslash
    split_ifs with hcontrol
    · obtain ⟨hlength, hnamed⟩ := charOfDigits?_fourDigits c.toNat (toNat_lt_of_isControl hcontrol)
      obtain ⟨w, x, y, z, hdigits⟩ := List.length_eq_four.1 hlength
      rw [hdigits, Char.ofNat_toNat] at hnamed
      exact Or.inr (Or.inl ⟨w, x, y, z, by rw [hdigits], hnamed⟩)
    · have hplain := isPlain_of_not_isControl (Bool.eq_false_iff.2 hcontrol)
      exact Or.inr (Or.inr ⟨rfl, hplain, hbackslash⟩)

/-- No escape begins with a quote. -/
theorem head?_escapeChar_append {c : Char} (hquote : c ≠ '"') (rest : Text) :
    (escapeChar c ++ rest).head? ≠ some '"' := by
  rcases escapeChar_cases c with ⟨letter, h, -⟩ | ⟨w, x, y, z, h, -⟩ | ⟨h, -, -⟩
  · rw [h]
    simp
  · rw [h]
    simp
  · rw [h]
    simpa using hquote

/-! ## Readers of escapes -/

/-- In a reader of strings, a written text stands for a character. -/
def StandsFor (read : Text → Option (Text × Text)) (written : Text) (c : Char) : Prop :=
  ∀ rest, read (written ++ rest) = (read rest).map (consRead c)

/-- A reader understands the escapes, and takes plain characters as they are. -/
structure ReadsEscapes (read : Text → Option (Text × Text)) : Prop where
  letter : ∀ {letter c : Char}, charOfLetter? letter = some c → StandsFor read ['\\', letter] c
  digits : ∀ {w x y z c : Char}, charOfDigits? [w, x, y, z] = some c →
    StandsFor read ['\\', 'u', w, x, y, z] c
  plain : ∀ {c : Char}, isPlain c = true → c ≠ '"' → c ≠ '\\' → StandsFor read [c] c

/-- A character that is known is put in front of what is read behind it. -/
theorem bind_consRead (c : Char) (read : Option (Text × Text)) :
    (do return consRead (← some c) (← read)) = read.map (consRead c) := by
  cases read <;> rfl

/-- The reader of basic strings understands the escapes. -/
theorem readsEscapes_readBasic? : ReadsEscapes readBasic? where
  letter {letter c} h rest := by
    unfold charOfLetter? at h
    split at h <;> cases h <;> exact bind_consRead _ _
  digits {w x y z c} h rest := by
    change readBasic? ('\\' :: 'u' :: w :: x :: y :: z :: rest) = _
    rw [readBasic?, h]
    exact bind_consRead _ _
  plain {c} hplain hquote hbackslash rest := by
    change readBasic? (c :: rest) = _
    rw [readBasic?.eq_def]
    split <;> simp_all

/-- The reader of multi-line basic strings understands the escapes. -/
theorem readsEscapes_readMultiBasic? : ReadsEscapes (readMultiBasic? false) where
  letter {letter c} h rest := by
    unfold charOfLetter? at h
    split at h <;> cases h <;> exact bind_consRead _ _
  digits {w x y z c} h rest := by
    change readMultiBasic? false ('\\' :: 'u' :: w :: x :: y :: z :: rest) = _
    rw [readMultiBasic?, h]
    exact bind_consRead _ _
  plain {c} hplain hquote hbackslash rest := by
    -- a carriage return is no plain character, so no line break begins here
    have hreturn : c ≠ '\r' := by
      rintro rfl
      exact absurd hplain (by decide)
    change readMultiBasic? false (c :: rest) = _
    rw [readMultiBasic?.eq_def]
    split <;> simp_all

/-- What is written for a character other than a quote stands for it. -/
theorem ReadsEscapes.escapeChar {read : Text → Option (Text × Text)} (h : ReadsEscapes read)
    {c : Char} (hquote : c ≠ '"') : StandsFor read (escapeChar c) c := by
  rcases escapeChar_cases c with ⟨letter, heq, hletter⟩ | ⟨w, x, y, z, heq, hdigits⟩ |
    ⟨heq, hplain, hbackslash⟩
  · rw [heq]
    exact h.letter hletter
  · rw [heq]
    exact h.digits hdigits
  · rw [heq]
    exact h.plain hplain hquote hbackslash

/-! ## One quote -/

/-- A text is read back from between double quotes, whatever follows. -/
theorem readBasic?_escapeBasic (t rest : Text) :
    readBasic? (escapeBasic t ++ '"' :: rest) = some (t, rest) := by
  have hescapes := readsEscapes_readBasic?
  fun_induction escapeBasic t with
  | case1 => rfl
  | case2 t ih =>
      have hquote := hescapes.letter (show charOfLetter? '"' = some '"' from rfl)
        (escapeBasic t ++ '"' :: rest)
      rw [ih] at hquote
      exact hquote
  | case3 t ih =>
      have hbreak := hescapes.letter (show charOfLetter? 'n' = some '\n' from rfl)
        (escapeBasic t ++ '"' :: rest)
      rw [ih] at hbreak
      exact hbreak
  | case4 c t hquote hbreak ih =>
      rw [List.append_assoc, hescapes.escapeChar hquote, ih]
      rfl

/-- A text without quotes and control characters is read back from between single quotes. -/
theorem readLiteral?_append {t : Text} (h : ∀ c ∈ t, isPlain c = true ∧ c ≠ '\'') (rest : Text) :
    readLiteral? (t ++ '\'' :: rest) = some (t, rest) := by
  induction t with
  | nil => rfl
  | cons c t ih =>
      rw [List.forall_mem_cons] at h
      obtain ⟨⟨hplain, hquote⟩, hrest⟩ := h
      rw [List.cons_append, readLiteral?.eq_def]
      simp [hplain, ih hrest, consRead]

/-! ## Three quotes -/

/-- A reader ends strings at three quotes, and takes a quote as it is if no two others follow. -/
structure ReadsTriple (read : Text → Option (Text × Text)) (quote : Char) : Prop where
  stop : ∀ rest, read (quote :: quote :: quote :: rest) = some (endTriple quote rest)
  single : ∀ rest, ¬ [quote, quote] <+: rest → read (quote :: rest) =
    (read rest).map (consRead quote)

/-- The reader of multi-line basic strings ends at three double quotes. -/
theorem readsTriple_readMultiBasic? : ReadsTriple (readMultiBasic? false) '"' where
  stop rest := rfl
  single rest h := by
    rw [readMultiBasic?.eq_def]
    split
    case h_2 tail heq =>
      cases heq
      exact absurd ⟨tail, rfl⟩ h
    case h_7 heq =>
      cases heq
      rfl
    all_goals simp_all

/-- The reader of multi-line literal strings ends at three single quotes. -/
theorem readsTriple_readMultiLiteral? : ReadsTriple readMultiLiteral? '\'' where
  stop rest := rfl
  single rest h := by
    rw [readMultiLiteral?.eq_def]
    split
    case h_2 tail heq =>
      cases heq
      exact absurd ⟨tail, rfl⟩ h
    case h_4 heq =>
      cases heq
      rfl
    all_goals simp_all

section triple

variable {read : Text → Option (Text × Text)} {quote : Char} {run : Nat} {rest : Text}

/-- Up to two quotes in front of another character stand for themselves. -/
theorem ReadsTriple.quotes (h : ReadsTriple read quote) (hrun : run ≤ 2)
    (hrest : rest.head? ≠ some quote) :
    read (List.replicate run quote ++ rest) =
      (read rest).map fun result => (List.replicate run quote ++ result.1, result.2) := by
  have hone : read (quote :: rest) = (read rest).map (consRead quote) := by
    apply h.single
    rintro ⟨tail, rfl⟩
    exact hrest rfl
  have htwo : read (quote :: quote :: rest) = (read (quote :: rest)).map (consRead quote) := by
    apply h.single
    rintro ⟨tail, htail⟩
    rw [List.cons_append, List.cons.injEq] at htail
    exact hrest (by rw [← htail.2]; rfl)
  match run, hrun with
  | 0, _ => simp
  | 1, _ => exact hone
  | 2, _ =>
      change read (quote :: quote :: rest) = _
      rw [htwo, hone, Option.map_map]
      rfl

/-- Up to two quotes in front of the last three belong to the string. -/
theorem ReadsTriple.close (h : ReadsTriple read quote) (hrun : run ≤ 2)
    (hrest : rest.head? ≠ some quote) :
    read (List.replicate run quote ++ [quote, quote, quote] ++ rest) =
      some (List.replicate run quote, rest) := by
  have hend : endTriple quote (List.replicate run quote ++ rest) =
      (List.replicate run quote, rest) := by
    match run, rest, hrun with
    | 0, [], _ => rfl
    | 0, [a], _ => simp_all [endTriple]
    | 0, a :: b :: tail, _ => simp_all [endTriple]
    | 1, [], _ => simp [endTriple]
    | 1, a :: tail, _ => simp_all [endTriple]
    | 2, rest, _ => simp [endTriple]
  -- the quotes may be told apart in any way: the first three end the string
  have hquotes : List.replicate run quote ++ [quote, quote, quote] ++ rest =
      quote :: quote :: quote :: (List.replicate run quote ++ rest) := by
    match run, hrun with
    | 0, _ => rfl
    | 1, _ => rfl
    | 2, _ => rfl
  rw [hquotes, h.stop, hend]

/-- Behind up to two quotes, a character is read from what stands for it. -/
theorem ReadsTriple.step (h : ReadsTriple read quote) (hrun : run ≤ 2) {written more t : Text}
    {c : Char} (hstands : StandsFor read written c)
    (hhead : (written ++ more).head? ≠ some quote) (hmore : read more = some (t, rest)) :
    read (List.replicate run quote ++ (written ++ more)) =
      some (List.replicate run quote ++ c :: t, rest) := by
  rw [h.quotes hrun hhead, hstands, hmore]
  rfl

/-- A quote behind a run makes the run longer. -/
theorem replicate_append_cons (run : Nat) (quote : Char) (t : Text) :
    List.replicate run quote ++ quote :: t = List.replicate (run + 1) quote ++ t := by
  rw [List.replicate_succ', List.append_assoc, List.singleton_append]

end triple

/-- A text is read back from between three double quotes.  The quotes of the run in front have been
written already. -/
theorem readMultiBasic?_escapeMulti {run : Nat} (hrun : run ≤ 2) (t : Text) {rest : Text}
    (hrest : rest.head? ≠ some '"') :
    readMultiBasic? false
        (List.replicate run '"' ++ (escapeMulti run t ++ (['"', '"', '"'] ++ rest))) =
      some (List.replicate run '"' ++ t, rest) := by
  have htriple := readsTriple_readMultiBasic?
  have hescapes := readsEscapes_readMultiBasic?
  fun_induction escapeMulti run t with
  | case1 run =>
      rw [List.nil_append, ← List.append_assoc, htriple.close hrun hrest, List.append_nil]
  | case2 t ih =>
      have hstands := hescapes.letter (show charOfLetter? '"' = some '"' from rfl)
      have hstep := htriple.step hrun hstands (by simp) (ih (Nat.zero_le 2))
      exact hstep
  | case3 run t hlt ih =>
      rw [List.cons_append, replicate_append_cons, replicate_append_cons]
      exact ih (by omega)
  | case4 run t ih =>
      have hstands : StandsFor (readMultiBasic? false) ['\n'] '\n' := fun _ => rfl
      have hstep := htriple.step hrun hstands (by simp) (ih (Nat.zero_le 2))
      exact hstep
  | case5 run c t hquote hbreak ih =>
      have hhead := head?_escapeChar_append hquote (escapeMulti 0 t ++ (['"', '"', '"'] ++ rest))
      rw [List.append_assoc]
      exact htriple.step hrun (hescapes.escapeChar hquote) hhead (ih (Nat.zero_le 2))

/-- In a multi-line literal string a character that may be written as it is stands for itself. -/
theorem standsFor_readMultiLiteral? {c : Char} (hplain : isPlain c = true ∨ c = '\n')
    (hquote : c ≠ '\'') : StandsFor readMultiLiteral? [c] c := by
  intro rest
  rcases hplain with hplain | rfl
  · have hreturn : c ≠ '\r' := by
      rintro rfl
      exact absurd hplain (by decide)
    change readMultiLiteral? (c :: rest) = _
    rw [readMultiLiteral?.eq_def]
    split <;> simp_all
  · rfl

/-- A text with at most two single quotes in a row is read back from between three of them.  The
quotes of the run in front belong to the text. -/
theorem readMultiLiteral?_append {run : Nat} {t : Text} (hrun : longestRun '\'' run t ≤ 2)
    (hplain : ∀ c ∈ t, isPlain c = true ∨ c = '\n') {rest : Text}
    (hrest : rest.head? ≠ some '\'') :
    readMultiLiteral? (List.replicate run '\'' ++ (t ++ (['\'', '\'', '\''] ++ rest))) =
      some (List.replicate run '\'' ++ t, rest) := by
  have htriple := readsTriple_readMultiLiteral?
  induction t generalizing run with
  | nil =>
      have hclose := htriple.close (show run ≤ 2 from hrun) hrest
      rw [List.nil_append, ← List.append_assoc, hclose, List.append_nil]
  | cons c t ih =>
      rw [List.forall_mem_cons] at hplain
      rw [longestRun] at hrun
      split_ifs at hrun with hquote
      · rw [beq_iff_eq] at hquote
        subst hquote
        rw [List.cons_append, replicate_append_cons, replicate_append_cons]
        exact ih hrun hplain.2
      · rw [beq_iff_eq] at hquote
        have hmore := @ih 0 (le_trans (le_max_right run _) hrun) hplain.2
        have hstands := standsFor_readMultiLiteral? hplain.1 hquote
        have hstep := htriple.step (le_trans (le_max_left run _) hrun) hstands
          (by simpa using hquote) hmore
        exact hstep

/-! ## The forms -/

/-- A text that is written between single quotes has none, and no control characters. -/
theorem Form.of_eq_literal {t : Text} (h : Form.of t = .literal) :
    ∀ c ∈ t, isPlain c = true ∧ c ≠ '\'' := by
  unfold Form.of at h
  extract_lets controlled controlledInLine at h
  split_ifs at h with hbasic hliteral
  rw [Bool.and_eq_true, Bool.not_eq_true', Bool.not_eq_true', List.any_eq_false] at hliteral
  intro c hc
  refine ⟨isPlain_of_not_isControl (Bool.eq_false_iff.2 (hliteral.1 c hc)), ?_⟩
  rintro rfl
  simp_all

/-- A text that is written between three single quotes has at most two in a row, and no control
characters but line feeds. -/
theorem Form.of_eq_multiLiteral {t : Text} (h : Form.of t = .multiLiteral) :
    longestRun '\'' 0 t ≤ 2 ∧ ∀ c ∈ t, isPlain c = true ∨ c = '\n' := by
  unfold Form.of at h
  extract_lets controlled controlledInLine at h
  split_ifs at h with hbasic hliteral hmulti hmultiLiteral
  rw [Bool.and_eq_true, Bool.not_eq_true', List.any_eq_false, decide_eq_true_eq] at hmultiLiteral
  refine ⟨hmultiLiteral.2, fun c hc => ?_⟩
  by_cases hbreak : c = '\n'
  · exact Or.inr hbreak
  · have hcontrol := hmultiLiteral.1 c hc
    refine Or.inl (isPlain_of_not_isControl ?_)
    simpa [hbreak] using hcontrol

/-- The line break behind three opening quotes is left out again, and no other is. -/
theorem dropLineBreak_leadingBreak {t u : Text}
    (h : '\n' ∉ t → u.head? ≠ some '\n' ∧ u.head? ≠ some '\r') :
    dropLineBreak (leadingBreak t ++ u) = u := by
  unfold leadingBreak
  split_ifs with hbreak
  · rfl
  · have hhead := h (by simpa using hbreak)
    change dropLineBreak u = u
    rw [dropLineBreak.eq_def]
    split <;> simp_all

/-- What is written for a character other than a line feed begins with no line break. -/
theorem head?_escapeChar_ne {c d : Char} (hc : c ≠ '\n') (hd : d = '\n' ∨ d = '\r') (rest : Text) :
    (escapeChar c ++ rest).head? ≠ some d := by
  have hbackslash : '\\' ≠ d := by
    rcases hd with rfl | rfl <;> decide
  rcases escapeChar_cases c with ⟨letter, h, -⟩ | ⟨w, x, y, z, h, -⟩ | ⟨h, hplain, -⟩
  · rw [h]
    simpa using hbackslash
  · rw [h]
    simpa using hbackslash
  · rw [h]
    rintro heq
    cases heq
    rcases hd with rfl | rfl
    · exact hc rfl
    · exact absurd hplain (by decide)

/-- What is written between three double quotes begins with no line break if the text has none. -/
theorem head?_escapeMulti_ne {t : Text} (ht : '\n' ∉ t) {d : Char} (hd : d = '\n' ∨ d = '\r')
    (rest : Text) : (escapeMulti 0 t ++ (['"', '"', '"'] ++ rest)).head? ≠ some d := by
  have hquote : '"' ≠ d := by
    rcases hd with rfl | rfl <;> decide
  unfold escapeMulti
  split
  · simpa using hquote
  · simpa using hquote
  · exact absurd List.mem_cons_self ht
  · rename_i c t _ _
    have hc : c ≠ '\n' := by
      rintro rfl
      exact ht List.mem_cons_self
    rw [List.append_assoc]
    exact head?_escapeChar_ne hc hd _

/-- A double quote opens a basic string if two others do not follow. -/
theorem readString?_double {t : Text} (h : ¬ ['"', '"'] <+: t) :
    readString? ('"' :: t) = readBasic? t := by
  rw [readString?.eq_def]
  split
  case h_1 tail heq =>
    cases heq
    exact absurd ⟨tail, rfl⟩ h
  case h_3 heq =>
    cases heq
    rfl
  all_goals simp_all

/-- A single quote opens a literal string if two others do not follow. -/
theorem readString?_single {t : Text} (h : ¬ ['\'', '\''] <+: t) :
    readString? ('\'' :: t) = readLiteral? t := by
  rw [readString?.eq_def]
  split
  case h_2 tail heq =>
    cases heq
    exact absurd ⟨tail, rfl⟩ h
  case h_4 heq =>
    cases heq
    rfl
  all_goals simp_all

/-- Between double quotes no two quotes stand at the front. -/
theorem not_prefix_escapeBasic (t : Text) {rest : Text} (hrest : rest.head? ≠ some '"') :
    ¬ ['"', '"'] <+: escapeBasic t ++ '"' :: rest := by
  rintro ⟨tail, htail⟩
  have hhead : (escapeBasic t ++ '"' :: rest).head? = some '"' := by
    rw [← htail]
    rfl
  unfold escapeBasic at hhead htail
  split at hhead
  · cases htail
    exact hrest rfl
  · cases hhead
  · cases hhead
  · rename_i c t hquote _
    rw [List.append_assoc] at hhead
    exact head?_escapeChar_append hquote _ hhead

section forms

variable {t rest : Text}

/-- A text written as a basic string is read back. -/
theorem readString?_basic (hdouble : rest.head? ≠ some '"') :
    readString? ('"' :: (escapeBasic t ++ '"' :: rest)) = some (t, rest) := by
  rw [readString?_double (not_prefix_escapeBasic t hdouble), readBasic?_escapeBasic]

/-- A text written as a literal string is read back, if it may be written so. -/
theorem readString?_literal (hsingle : rest.head? ≠ some '\'')
    (hplain : ∀ c ∈ t, isPlain c = true ∧ c ≠ '\'') :
    readString? ('\'' :: (t ++ '\'' :: rest)) = some (t, rest) := by
  have hshort : ¬ ['\'', '\''] <+: t ++ '\'' :: rest := by
    rintro ⟨tail, htail⟩
    cases t with
    | nil =>
        cases htail
        exact hsingle rfl
    | cons c t =>
        have hc : '\'' = c := (List.cons.inj htail).1
        exact (hplain c List.mem_cons_self).2 hc.symm
  rw [readString?_single hshort, readLiteral?_append hplain]

/-- A text written as a multi-line basic string is read back. -/
theorem readString?_multiBasic (hdouble : rest.head? ≠ some '"') :
    readString? ('"' :: '"' :: '"' ::
      (leadingBreak t ++ (escapeMulti 0 t ++ (['"', '"', '"'] ++ rest)))) = some (t, rest) := by
  change readMultiBasic? false (dropLineBreak _) = _
  rw [dropLineBreak_leadingBreak]
  · exact readMultiBasic?_escapeMulti (Nat.zero_le 2) t hdouble
  · intro ht
    exact ⟨head?_escapeMulti_ne ht (Or.inl rfl) rest, head?_escapeMulti_ne ht (Or.inr rfl) rest⟩

/-- A text written as a multi-line literal string is read back, if it may be written so. -/
theorem readString?_multiLiteral (hsingle : rest.head? ≠ some '\'')
    (hrun : longestRun '\'' 0 t ≤ 2) (hplain : ∀ c ∈ t, isPlain c = true ∨ c = '\n') :
    readString? ('\'' :: '\'' :: '\'' ::
      (leadingBreak t ++ (t ++ (['\'', '\'', '\''] ++ rest)))) = some (t, rest) := by
  change readMultiLiteral? (dropLineBreak _) = _
  rw [dropLineBreak_leadingBreak]
  · exact readMultiLiteral?_append hrun hplain hsingle
  · intro ht
    cases t with
    | nil => simp
    | cons c t =>
        constructor
        · intro hc
          cases hc
          exact ht List.mem_cons_self
        · intro hc
          cases hc
          exact absurd (hplain '\r' List.mem_cons_self) (by decide)

/-- **A string is read as it was written**, whatever its text is, if no further quote follows. -/
theorem readString?_writeString (t : Text) (hdouble : rest.head? ≠ some '"')
    (hsingle : rest.head? ≠ some '\'') : readString? (writeString t ++ rest) = some (t, rest) := by
  unfold writeString
  split
  · rw [List.append_assoc, List.append_assoc]
    exact readString?_basic hdouble
  · rename_i hform
    rw [List.append_assoc, List.append_assoc]
    exact readString?_literal hsingle (Form.of_eq_literal hform)
  · rw [List.append_assoc, List.append_assoc, List.append_assoc]
    exact readString?_multiBasic hdouble
  · rename_i hform
    obtain ⟨hrun, hplain⟩ := Form.of_eq_multiLiteral hform
    rw [List.append_assoc, List.append_assoc, List.append_assoc]
    exact readString?_multiLiteral hsingle hrun hplain

end forms

/-- Every string begins with a quote. -/
theorem exists_writeString (t : Text) :
    ∃ quote rest, writeString t = quote :: rest ∧ (quote = '"' ∨ quote = '\'') := by
  unfold writeString
  split
  · exact ⟨'"', _, rfl, Or.inl rfl⟩
  · exact ⟨'\'', _, rfl, Or.inr rfl⟩
  · exact ⟨'"', _, rfl, Or.inl rfl⟩
  · exact ⟨'\'', _, rfl, Or.inr rfl⟩

end DeclAtlas.Toml
