import Mathlib
import DeclAtlas.Condition.Basic
import DeclAtlas.Proofs.Text.Cutting

/-!
# The grammar of conditions

    condition ::= operand (("&&" | "||") operand)*
    operand   ::= symbol | "true" | "false" | "(" condition ")"

`Expression` is the type of conditions that follow this grammar, together with the separators
written between their parts.  `Expression.text` writes one down and `Expression.value` gives its
meaning by recursion on the grammar.

**Theorem** (`holds_text`): the truth of a written expression is its value.

The evaluator knows no grammar.  It replaces groups by words in the text, the last group first, and
splits what is left into words.  The proof follows it in two steps.  `resolveGroups_text` says what
text is left when all groups are gone: the expression with each group at the top replaced by the
word for its value (`flat`).  `words_flat` says that the words of this text are those of the
expression with one word per operand (`tokens`), whatever separators are written, and folding these
from the left is the value.
-/

namespace DeclAtlas.Condition

/-! ## Expressions -/

/-- A word of a condition; the words `true` and `false` are among them. -/
structure Symbol where
  /-- The characters of the word. -/
  text : Text
  /-- There is at least one character. -/
  ne_nil : text ≠ []
  /-- No character separates words or has a meaning of its own. -/
  plain : ∀ c ∈ text, isSeparator c = false ∧ c ≠ '(' ∧ c ≠ ')' ∧ c ≠ '&' ∧ c ≠ '|'

/-- Any number of separators, also none. -/
structure Gap where
  /-- The separators. -/
  text : Text
  /-- There is nothing else. -/
  separators : ∀ c ∈ text, isSeparator c = true

/-- The operators. -/
inductive Operator where
  | conjunction
  | disjunction
  deriving DecidableEq, Repr

/-- How an operator is written. -/
def Operator.text : Operator → Text
  | .conjunction => "&&"
  | .disjunction => "||"

/-- What an operator does with two truth values. -/
def Operator.apply : Operator → Bool → Bool → Bool
  | .conjunction, left, right => left && right
  | .disjunction, left, right => left || right

mutual

/-- An operand: a word, or a condition in parentheses with a gap behind the opening one. -/
inductive Operand where
  | word (symbol : Symbol)
  | group (gap : Gap) (first : Operand) (rest : Links)

/-- What follows the first operand of a condition: operators with their right operands, and a gap
at the end. -/
inductive Links where
  | done (gap : Gap)
  | link (before : Gap) (operator : Operator) (behind : Gap) (operand : Operand) (rest : Links)

end

/-- A condition that follows the grammar. -/
structure Expression where
  /-- The separators in front. -/
  gap : Gap
  /-- The first operand. -/
  first : Operand
  /-- The operators and operands behind it. -/
  rest : Links

/-! ## Writing -/

mutual

/-- How an operand is written. -/
def Operand.text : Operand → Text
  | .word symbol => symbol.text
  | .group gap first rest => '(' :: (gap.text ++ first.text ++ rest.text) ++ [')']

/-- How the operators behind an operand are written. -/
def Links.text : Links → Text
  | .done gap => gap.text
  | .link before operator behind operand rest =>
    before.text ++ operator.text ++ behind.text ++ operand.text ++ rest.text

end

/-- How a condition is written. -/
def Expression.text (e : Expression) : Text :=
  e.gap.text ++ e.first.text ++ e.rest.text

/-! ## Meaning -/

/-- A word is true if it is `true` or one of the symbols. -/
def isTrue (symbols : Symbols) (word : Text) : Bool :=
  word == "true".toList || symbols.names.contains word

mutual

/-- The value of an operand.  A group stands for the word that names the value of what is in it. -/
def Operand.value (symbols : Symbols) : Operand → Bool
  | .word symbol => isTrue symbols symbol.text
  | .group _ first rest =>
    isTrue symbols (if rest.fold symbols (first.value symbols) then "true" else "false")

/-- Applies the operators to a value, from left to right. -/
def Links.fold (symbols : Symbols) (value : Bool) : Links → Bool
  | .done _ => value
  | .link _ operator _ operand rest =>
    rest.fold symbols (operator.apply value (operand.value symbols))

end

/-- The value of a condition. -/
def Expression.value (symbols : Symbols) (e : Expression) : Bool :=
  e.rest.fold symbols (e.first.value symbols)

/-- The evaluator takes a word for true if it is `true` or one of the symbols. -/
theorem wordHolds_eq_isTrue (symbols : Symbols) (word : Text) :
    wordHolds symbols word = isTrue symbols word := by
  unfold wordHolds isTrue Symbols.contains
  rw [Bool.eq_iff_iff]
  simp

/-- The words for the two truth values. -/
theorem literal_eq (value : Bool) :
    literal value = if value then "true".toList else "false".toList := by
  cases value <;> rfl

/-- The evaluator combines two values as the operator does. -/
theorem combine_text (operator : Operator) (left right : Bool) :
    combine operator.text left right = operator.apply left right := by
  cases operator <;> rfl

/-! ## Reading words -/

/-- A character that can be part of a word. -/
def isWordChar (c : Char) : Bool :=
  !isSeparator c && c != ')' && c != '&' && c != '|'

/-- A word character goes on with the word. -/
theorem wordsFrom_cons_of_isWordChar {c : Char} (hc : isWordChar c = true) (word rest : Text) :
    wordsFrom word (c :: rest) = wordsFrom (word ++ [c]) rest := by
  simp only [isWordChar, Bool.and_eq_true, Bool.not_eq_true', bne_iff_ne] at hc
  obtain ⟨⟨⟨hsep, hparen⟩, hand⟩, hor⟩ := hc
  rw [wordsFrom]
  · simp [hsep, hparen]
  · rintro _ rfl; exact absurd rfl hand
  · rintro _ rfl; exact absurd rfl hor

/-- Word characters go on with the word. -/
theorem wordsFrom_append {t : Text} (ht : ∀ c ∈ t, isWordChar c = true) (word rest : Text) :
    wordsFrom word (t ++ rest) = wordsFrom (word ++ t) rest := by
  induction t generalizing word with
  | nil => simp
  | cons c t ih =>
      rw [List.cons_append, wordsFrom_cons_of_isWordChar (ht c List.mem_cons_self),
        ih (fun d hd => ht d (List.mem_cons_of_mem c hd))]
      simp

/-- A separator ends the word. -/
theorem wordsFrom_cons_of_isSeparator {c : Char} (hc : isSeparator c = true) (word rest : Text) :
    wordsFrom word (c :: rest) = pendingWord word ++ wordsFrom [] rest := by
  rw [wordsFrom]
  · simp [hc]
  · rintro _ rfl; exact absurd hc (by decide)
  · rintro _ rfl; exact absurd hc (by decide)

/-- Between words there is no word to end. -/
@[simp] theorem pendingWord_nil : pendingWord [] = [] := rfl

/-- A word that has begun is one word. -/
theorem pendingWord_of_ne_nil {word : Text} (h : word ≠ []) : pendingWord word = [word] := by
  cases word with
  | nil => exact absurd rfl h
  | cons c t => rfl

/-- An operator ends the word and is a word of its own. -/
theorem wordsFrom_operator (operator : Operator) (word rest : Text) :
    wordsFrom word (operator.text ++ rest) =
      pendingWord word ++ operator.text :: wordsFrom [] rest := by
  cases operator with
  | conjunction => exact wordsFrom.eq_2 word rest
  | disjunction => exact wordsFrom.eq_3 word rest

/-- A gap ends the word in front of it, if there is one. -/
theorem wordsFrom_gap (gap : Gap) (word : Text) : wordsFrom word gap.text = pendingWord word := by
  obtain ⟨t, ht⟩ := gap
  induction t generalizing word with
  | nil => rw [wordsFrom]
  | cons c t ih =>
      rw [wordsFrom_cons_of_isSeparator (ht c List.mem_cons_self),
        ih [] (fun d hd => ht d (List.mem_cons_of_mem c hd))]
      simp

/-- A gap at the start is passed over. -/
theorem wordsFrom_nil_gap_append (gap : Gap) (rest : Text) :
    wordsFrom [] (gap.text ++ rest) = wordsFrom [] rest := by
  obtain ⟨t, ht⟩ := gap
  induction t with
  | nil => rfl
  | cons c t ih =>
      rw [List.cons_append, wordsFrom_cons_of_isSeparator (ht c List.mem_cons_self),
        ih (fun d hd => ht d (List.mem_cons_of_mem c hd))]
      simp

/-- A gap in front of an operator makes no difference. -/
theorem wordsFrom_gap_operator (gap : Gap) (operator : Operator) (word rest : Text) :
    wordsFrom word (gap.text ++ (operator.text ++ rest)) =
      pendingWord word ++ operator.text :: wordsFrom [] rest := by
  obtain ⟨t, ht⟩ := gap
  induction t generalizing word with
  | nil => exact wordsFrom_operator operator word rest
  | cons c t ih =>
      rw [List.cons_append, wordsFrom_cons_of_isSeparator (ht c List.mem_cons_self),
        ih [] (fun d hd => ht d (List.mem_cons_of_mem c hd))]
      simp

/-! ## Expressions without groups -/

/-- The one word that stands for an operand. -/
def Operand.token (symbols : Symbols) : Operand → Text
  | .word symbol => symbol.text
  | .group _ first rest => literal (rest.fold symbols (first.value symbols))

/-- The operand as it is written when its groups are gone. -/
def Operand.flat (symbols : Symbols) : Operand → Text
  | .word symbol => symbol.text
  | .group _ first rest => ' ' :: literal (rest.fold symbols (first.value symbols)) ++ [' ']

/-- The operators and operands as they are written when their groups are gone. -/
def Links.flat (symbols : Symbols) : Links → Text
  | .done gap => gap.text
  | .link before operator behind operand rest =>
    before.text ++ operator.text ++ behind.text ++ operand.flat symbols ++ rest.flat symbols

/-- The operators with one word for each operand. -/
def Links.tokens (symbols : Symbols) : Links → List Text
  | .done _ => []
  | .link _ operator _ operand rest =>
    operator.text :: operand.token symbols :: rest.tokens symbols

/-- A symbol has word characters only. -/
theorem Symbol.isWordChar {symbol : Symbol} {c : Char} (hc : c ∈ symbol.text) :
    isWordChar c = true := by
  obtain ⟨hsep, -, hclose, hand, hor⟩ := symbol.plain c hc
  simp [Condition.isWordChar, hsep, hclose, hand, hor]

/-- The words for truth values have word characters only. -/
theorem isWordChar_of_mem_literal {value : Bool} {c : Char} (hc : c ∈ literal value) :
    isWordChar c = true := by
  have hall : (literal value).all Condition.isWordChar = true := by cases value <;> decide
  exact List.all_eq_true.1 hall c hc

/-- The words for truth values are not empty. -/
theorem literal_ne_nil (value : Bool) : literal value ≠ [] := by
  cases value <;> decide

/-- The words behind an operand do not depend on whether it is a group: its word comes first. -/
theorem wordsFrom_flat_append (symbols : Symbols) (operand : Operand) (rest : Text)
    {words : List Text} (hrest : ∀ word, wordsFrom word rest = pendingWord word ++ words) :
    wordsFrom [] (operand.flat symbols ++ rest) = operand.token symbols :: words := by
  cases operand with
  | word symbol =>
      rw [Operand.flat, Operand.token, wordsFrom_append (fun c hc => Symbol.isWordChar hc),
        List.nil_append, hrest, pendingWord_of_ne_nil symbol.ne_nil]
      rfl
  | group gap first links =>
      rw [Operand.flat, Operand.token, List.cons_append, List.cons_append,
        wordsFrom_cons_of_isSeparator (by decide), List.append_assoc,
        wordsFrom_append (fun c hc => isWordChar_of_mem_literal hc), List.singleton_append,
        wordsFrom_cons_of_isSeparator (by decide), hrest]
      simp [pendingWord_of_ne_nil (literal_ne_nil _)]

/-- The words of the operators and operands, once their groups are gone. -/
theorem wordsFrom_flat (symbols : Symbols) :
    (links : Links) → ∀ word,
      wordsFrom word (links.flat symbols) = pendingWord word ++ links.tokens symbols
  | .done gap, word => by
      rw [Links.flat, Links.tokens, wordsFrom_gap, List.append_nil]
  | .link before operator behind operand rest, word => by
      simp only [Links.flat, Links.tokens, List.append_assoc]
      rw [wordsFrom_gap_operator, wordsFrom_nil_gap_append,
        wordsFrom_flat_append symbols operand _ (wordsFrom_flat symbols rest)]

/-- The words of a condition whose groups are gone: one for each operand, with the operators. -/
theorem words_flat (symbols : Symbols) (gap : Gap) (first : Operand) (rest : Links) :
    words (gap.text ++ first.flat symbols ++ rest.flat symbols) =
      first.token symbols :: rest.tokens symbols := by
  rw [words, List.append_assoc, wordsFrom_nil_gap_append,
    wordsFrom_flat_append symbols first _ (wordsFrom_flat symbols rest)]

/-- The word that stands for an operand has its value. -/
theorem wordHolds_token (symbols : Symbols) (operand : Operand) :
    wordHolds symbols (operand.token symbols) = operand.value symbols := by
  cases operand with
  | word symbol => rw [wordHolds_eq_isTrue, Operand.token, Operand.value]
  | group gap first rest =>
      rw [wordHolds_eq_isTrue, Operand.token, Operand.value, literal_eq]

/-- Combining the words from left to right folds the operators. -/
theorem combineAll_tokens (symbols : Symbols) :
    (links : Links) → ∀ value,
      combineAll symbols value (links.tokens symbols) = links.fold symbols value
  | .done _, value => by rw [Links.tokens, combineAll, Links.fold]
  | .link _ operator _ operand rest, value => by
      rw [Links.tokens, combineAll, combine_text, wordHolds_token, combineAll_tokens symbols rest,
        Links.fold]

/-- Without groups, folding the words from the left gives the value. -/
theorem flatHolds_flat (symbols : Symbols) (gap : Gap) (first : Operand) (rest : Links) :
    flatHolds symbols (gap.text ++ first.flat symbols ++ rest.flat symbols) =
      rest.fold symbols (first.value symbols) := by
  rw [flatHolds, words_flat, wordsHold, wordHolds_token, combineAll_tokens]

/-! ## Resolving groups -/

/-- Text without an opening parenthesis stays as it is. -/
theorem resolveGroups_append (symbols : Symbols) {t : Text} (ht : '(' ∉ t) (rest : Text) :
    resolveGroups symbols (t ++ rest) = t ++ resolveGroups symbols rest := by
  induction t with
  | nil => rfl
  | cons c t ih =>
      have hc : c ≠ '(' := fun h => ht (h ▸ List.mem_cons_self)
      have ht : '(' ∉ t := fun h => ht (List.mem_cons_of_mem c h)
      rw [List.cons_append, resolveGroups, ih ht, if_neg (by simpa using hc),
        List.cons_append]

/-- There is no opening parenthesis in a symbol. -/
theorem Symbol.open_not_mem (symbol : Symbol) : '(' ∉ symbol.text :=
  fun h => (symbol.plain _ h).2.1 rfl

/-- There is no closing parenthesis in a symbol. -/
theorem Symbol.close_not_mem (symbol : Symbol) : ')' ∉ symbol.text :=
  fun h => (symbol.plain _ h).2.2.1 rfl

/-- There is nothing but separators in a gap. -/
theorem Gap.not_mem (gap : Gap) {c : Char} (hc : isSeparator c = false) : c ∉ gap.text := by
  intro h
  rw [gap.separators c h] at hc
  cases hc

/-- There is no opening parenthesis in an operator. -/
theorem Operator.open_not_mem (operator : Operator) : '(' ∉ operator.text := by
  cases operator <;> decide

/-- There is no closing parenthesis in an operator. -/
theorem Operator.close_not_mem (operator : Operator) : ')' ∉ operator.text := by
  cases operator <;> decide

/-- There is no closing parenthesis in an operand whose groups are gone. -/
theorem Operand.close_not_mem_flat (symbols : Symbols) (operand : Operand) :
    ')' ∉ operand.flat symbols := by
  cases operand with
  | word symbol => exact symbol.close_not_mem
  | group gap first rest =>
      have hliteral : ∀ value, ')' ∉ literal value := by decide
      simp [Operand.flat, hliteral]

/-- There is no closing parenthesis behind an operand, once the groups are gone. -/
theorem Links.close_not_mem_flat (symbols : Symbols) : (links : Links) → ')' ∉ links.flat symbols
  | .done gap => gap.not_mem (by decide)
  | .link before operator behind operand rest => by
      simp only [Links.flat, List.mem_append, not_or]
      exact ⟨⟨⟨⟨before.not_mem (by decide), operator.close_not_mem⟩, behind.not_mem (by decide)⟩,
        operand.close_not_mem_flat symbols⟩, rest.close_not_mem_flat symbols⟩

mutual

/-- Resolving groups leaves the flat form of an operand and goes on behind it. -/
theorem Operand.resolveGroups_text (symbols : Symbols) :
    (operand : Operand) → ∀ rest,
      resolveGroups symbols (operand.text ++ rest) =
        operand.flat symbols ++ resolveGroups symbols rest
  | .word symbol, rest => by
      rw [Operand.text, Operand.flat]
      exact resolveGroups_append symbols symbol.open_not_mem rest
  | .group gap first links, rest => by
      -- what stands in the group has no group left, so the first `)` is the one that closes it
      have hinner : resolveGroups symbols
          (gap.text ++ first.text ++ links.text ++ ')' :: rest) =
          gap.text ++ first.flat symbols ++ links.flat symbols ++
            ')' :: resolveGroups symbols rest := by
        simp only [List.append_assoc]
        rw [resolveGroups_append symbols (gap.not_mem (by decide)),
          first.resolveGroups_text symbols, links.resolveGroups_text symbols]
        rfl
      have hclose : ')' ∉ gap.text ++ first.flat symbols ++ links.flat symbols := by
        simp only [List.mem_append, not_or]
        exact ⟨⟨gap.not_mem (by decide), first.close_not_mem_flat symbols⟩,
          links.close_not_mem_flat symbols⟩
      rw [Operand.text, List.cons_append, List.cons_append, List.append_assoc,
        List.singleton_append, resolveGroups, if_pos (by decide), hinner, closeGroup,
        Text.cutAt?_append _ hclose, Option.getD_some]
      simp only [flatHolds_flat]
      simp [Operand.flat]

/-- Resolving groups leaves the flat form of what follows an operand and goes on behind it. -/
theorem Links.resolveGroups_text (symbols : Symbols) :
    (links : Links) → ∀ rest,
      resolveGroups symbols (links.text ++ rest) = links.flat symbols ++ resolveGroups symbols rest
  | .done gap, rest => resolveGroups_append symbols (gap.not_mem (by decide)) rest
  | .link before operator behind operand links, rest => by
      simp only [Links.text, Links.flat, List.append_assoc]
      rw [resolveGroups_append symbols (before.not_mem (by decide)),
        resolveGroups_append symbols operator.open_not_mem,
        resolveGroups_append symbols (behind.not_mem (by decide)),
        operand.resolveGroups_text symbols, links.resolveGroups_text symbols]

end

/-! ## The evaluator and the grammar -/

/-- **The evaluator implements the grammar**: the truth of a written expression is its value,
however deep its groups are nested and whatever separators stand between its parts. -/
theorem holds_text (symbols : Symbols) (e : Expression) :
    holds symbols e.text = e.value symbols := by
  have hresolved : resolveGroups symbols e.text =
      e.gap.text ++ e.first.flat symbols ++ e.rest.flat symbols := by
    have h := e.rest.resolveGroups_text symbols []
    rw [List.append_nil, resolveGroups, List.append_nil] at h
    rw [Expression.text, List.append_assoc,
      resolveGroups_append symbols (e.gap.not_mem (by decide)),
      e.first.resolveGroups_text symbols, h, List.append_assoc]
  rw [holds, hresolved, flatHolds_flat, Expression.value]

end DeclAtlas.Condition
