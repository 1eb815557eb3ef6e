import DeclAtlas.Condition.Symbols

/-!
# Conditions

The condition of an `#if` or `#elif` directive combines symbols with `&&`, `||` and parentheses.
The two operators have the same precedence and are applied from left to right.  Any word is
accepted anywhere: a word in the place of an operator reads as `||`, and a missing right operand
is false, so every text has a truth value.

Groups are resolved from the last opening parenthesis to the first: each is replaced by the word
`true` or `false`, until no parenthesis is left to open a group.
-/

namespace DeclAtlas.Condition

/-! ## Words -/

/-- The blanks that separate the words of a condition. -/
def isSeparator (c : Char) : Bool :=
  c == ' ' || c == '\t' || c == '\n' || c == '\x0c' || c == '\r'

/-- The word that has been collected, unless it is empty. -/
def pendingWord (word : Text) : List Text :=
  if word.isEmpty then [] else [word]

/-- Splits the rest of a condition into words; `word` holds the characters of the word that is
being read.  The operators are words of their own, also without blanks around them. -/
def wordsFrom (word : Text) : Text → List Text
  | [] => pendingWord word
  | '&' :: '&' :: rest => pendingWord word ++ "&&".toList :: wordsFrom [] rest
  | '|' :: '|' :: rest => pendingWord word ++ "||".toList :: wordsFrom [] rest
  | c :: rest =>
    if isSeparator c || c == ')' then pendingWord word ++ wordsFrom [] rest
    else wordsFrom (word ++ [c]) rest

/-- The words of a condition without groups.  A closing parenthesis that closes no group only
separates. -/
def words (t : Text) : List Text :=
  wordsFrom [] t

/-! ## Truth -/

/-- A word is true if it is `true` or a defined symbol. -/
def wordHolds (symbols : Symbols) (word : Text) : Bool :=
  word == "true".toList || symbols.contains word

/-- Applies one operator; every word but `&&` reads as `||`. -/
def combine (operator : Text) (left right : Bool) : Bool :=
  if operator = "&&".toList then left && right else left || right

/-- Applies the operators that follow a value, from left to right. -/
def combineAll (symbols : Symbols) (value : Bool) : List Text → Bool
  | [] => value
  | [operator] => combine operator value false
  | operator :: operand :: rest =>
    combineAll symbols (combine operator value (wordHolds symbols operand)) rest

/-- The truth of a list of words; the empty list is false. -/
def wordsHold (symbols : Symbols) : List Text → Bool
  | [] => false
  | first :: rest => combineAll symbols (wordHolds symbols first) rest

/-- The truth of a condition without groups. -/
def flatHolds (symbols : Symbols) (t : Text) : Bool :=
  wordsHold symbols (words t)

/-! ## Groups -/

/-- The word for a truth value. -/
def literal (value : Bool) : Text :=
  if value then "true" else "false"

/-- Replaces a group by its truth value.  The text is what follows the opening parenthesis; the
group ends at the first closing parenthesis, or at the end of the text if there is none. -/
def closeGroup (symbols : Symbols) (t : Text) : Text :=
  let (inner, rest) := (Text.cutAt? ')' t).getD (t, [])
  ' ' :: literal (flatHolds symbols inner) ++ ' ' :: rest

/-- The condition with every group replaced by its truth value, the last group first. -/
def resolveGroups (symbols : Symbols) : Text → Text
  | [] => []
  | c :: rest =>
    if c == '(' then closeGroup symbols (resolveGroups symbols rest)
    else c :: resolveGroups symbols rest

/-- Whether a condition holds for the defined symbols. -/
def holds (symbols : Symbols) (t : Text) : Bool :=
  flatHolds symbols (resolveGroups symbols t)

end DeclAtlas.Condition
