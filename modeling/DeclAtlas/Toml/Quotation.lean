import DeclAtlas.Markup.Entity
import DeclAtlas.Toml.Basic

/-!
# TOML strings

A string stands in double or single quotes, one of each or three.  In double quotes a backslash
begins an escape; in single quotes every character stands for itself.  Strings in three quotes may
go over several lines: a line break right behind the opening quotes is left out, every line break
counts as one line feed, and a backslash at the end of a line joins it with the next text.
-/

namespace DeclAtlas.Toml

/-! ## Reading -/

/-- The characters that stand for themselves in strings of one line, quotes and backslashes
aside. -/
def isPlain (c : Char) : Bool :=
  c == '\t' || (0x20 ≤ c.toNat && c.toNat != 0x7F)

/-- The character that a code point in hexadecimal digits names. -/
def charOfDigits? (digits : Text) : Option Char := do
  let code ← Markup.number? 16 digits
  if code.isValidChar then some (Char.ofNat code) else none

/-- The character that a one-letter escape names. -/
def charOfLetter? : Char → Option Char
  | 'b' => some '\x08'
  | 't' => some '\t'
  | 'n' => some '\n'
  | 'f' => some '\x0c'
  | 'r' => some '\r'
  | '"' => some '"'
  | '\\' => some '\\'
  | _ => none

/-- Puts a character in front of the text read so far. -/
def consRead (c : Char) (read : Text × Text) : Text × Text :=
  (c :: read.1, read.2)

/-- Reads the rest of a string in double quotes: the string, and what follows it. -/
def readBasic? : Text → Option (Text × Text)
  | [] => none
  | '"' :: rest => some ([], rest)
  | '\\' :: 'u' :: a :: b :: c :: d :: rest => do
    return consRead (← charOfDigits? [a, b, c, d]) (← readBasic? rest)
  | '\\' :: 'U' :: a :: b :: c :: d :: e :: f :: g :: h :: rest => do
    return consRead (← charOfDigits? [a, b, c, d, e, f, g, h]) (← readBasic? rest)
  | '\\' :: letter :: rest => do
    return consRead (← charOfLetter? letter) (← readBasic? rest)
  | c :: rest => if isPlain c && c != '\\' then (readBasic? rest).map (consRead c) else none

/-- Reads the rest of a string in single quotes. -/
def readLiteral? : Text → Option (Text × Text)
  | [] => none
  | '\'' :: rest => some ([], rest)
  | c :: rest => if isPlain c then (readLiteral? rest).map (consRead c) else none

/-- Ends a string in three quotes behind the third quote: up to two quotes in front of the last
three belong to the string. -/
def endTriple (quote : Char) (rest : Text) : Text × Text :=
  match rest with
  | a :: b :: tail =>
    if a == quote && b == quote then ([quote, quote], tail)
    else if a == quote then ([quote], b :: tail)
    else ([], rest)
  | [a] => if a == quote then ([quote], []) else ([], rest)
  | [] => ([], [])

/-- Whether only blanks stand in front of the next line break. -/
def isLineEnd : Text → Bool
  | '\n' :: _ => true
  | '\r' :: '\n' :: _ => true
  | c :: rest => (c == ' ' || c == '\t') && isLineEnd rest
  | [] => false

/-- Reads the rest of a string in three double quotes.  While `joining` is set, blanks and line
breaks behind a backslash at the end of a line are passed over. -/
def readMultiBasic? (joining : Bool) : Text → Option (Text × Text)
  | [] => none
  | '"' :: '"' :: '"' :: rest => some (endTriple '"' rest)
  | '\\' :: 'u' :: a :: b :: c :: d :: rest => do
    return consRead (← charOfDigits? [a, b, c, d]) (← readMultiBasic? false rest)
  | '\\' :: 'U' :: a :: b :: c :: d :: e :: f :: g :: h :: rest => do
    return consRead (← charOfDigits? [a, b, c, d, e, f, g, h]) (← readMultiBasic? false rest)
  | '\\' :: letter :: rest =>
    if isLineEnd (letter :: rest) then
      readMultiBasic? true rest
    else do
      return consRead (← charOfLetter? letter) (← readMultiBasic? false rest)
  | '\r' :: '\n' :: rest =>
    if joining then readMultiBasic? true rest
    else (readMultiBasic? false rest).map (consRead '\n')
  | c :: rest =>
    if joining && (c == ' ' || c == '\t' || c == '\n') then readMultiBasic? true rest
    else if (isPlain c || c == '\n') && c != '\\' then
      (readMultiBasic? false rest).map (consRead c)
    else none

/-- Reads the rest of a string in three single quotes. -/
def readMultiLiteral? : Text → Option (Text × Text)
  | [] => none
  | '\'' :: '\'' :: '\'' :: rest => some (endTriple '\'' rest)
  | '\r' :: '\n' :: rest => (readMultiLiteral? rest).map (consRead '\n')
  | c :: rest =>
    if isPlain c || c == '\n' then (readMultiLiteral? rest).map (consRead c) else none

/-- The text without a line break in front. -/
def dropLineBreak : Text → Text
  | '\n' :: rest => rest
  | '\r' :: '\n' :: rest => rest
  | t => t

/-- Reads a string of any form from its first quote on. -/
def readString? : Text → Option (Text × Text)
  | '"' :: '"' :: '"' :: rest => readMultiBasic? false (dropLineBreak rest)
  | '\'' :: '\'' :: '\'' :: rest => readMultiLiteral? (dropLineBreak rest)
  | '"' :: rest => readBasic? rest
  | '\'' :: rest => readLiteral? rest
  | _ => none

/-! ## Writing

A string is written in the first form that shows it without escapes: in double quotes, in single
quotes, in three double quotes, in three single quotes.  If there is none, it is written in double
quotes with escapes, in three if it has a line break. -/

/-- The characters that cannot stand in a string by themselves, the tab aside. -/
def isControl (c : Char) : Bool :=
  (c.toNat < 0x20 && c != '\t') || c.toNat == 0x7F

/-- The length of the longest run of a character; `run` counts the run at the front so far. -/
def longestRun (c : Char) (run : Nat) : Text → Nat
  | [] => run
  | d :: rest => if d == c then longestRun c (run + 1) rest else max run (longestRun c 0 rest)

/-- The form in which a string is written. -/
inductive Form where
  | basic
  | literal
  | multiBasic
  | multiLiteral
  deriving DecidableEq, Repr

/-- The form in which a text is written. -/
def Form.of (t : Text) : Form :=
  let controlled := t.any isControl
  let controlledInLine := t.any fun c => isControl c && c != '\n'
  if !controlled && !t.contains '\\' && !t.contains '"' then .basic
  else if !controlled && !t.contains '\'' then .literal
  else if !controlledInLine && !t.contains '\\' && longestRun '"' 0 t ≤ 2 then .multiBasic
  else if !controlledInLine && longestRun '\'' 0 t ≤ 2 then .multiLiteral
  else if t.contains '\n' then .multiBasic
  else .basic

/-- Four hexadecimal digits of a number below 65536. -/
def fourDigits (n : Nat) : Text :=
  let digits := (Nat.toDigits 16 n).map Char.toUpper
  List.replicate (4 - digits.length) '0' ++ digits

/-- A character other than a quote or a line feed as it is written in double quotes. -/
def escapeChar (c : Char) : Text :=
  match c with
  | '\x08' => ['\\', 'b']
  | '\t' => ['\\', 't']
  | '\x0c' => ['\\', 'f']
  | '\r' => ['\\', 'r']
  | '\\' => ['\\', '\\']
  | _ => if isControl c then '\\' :: 'u' :: fourDigits c.toNat else [c]

/-- A text as it is written between double quotes. -/
def escapeBasic : Text → Text
  | [] => []
  | '"' :: rest => '\\' :: '"' :: escapeBasic rest
  | '\n' :: rest => '\\' :: 'n' :: escapeBasic rest
  | c :: rest => escapeChar c ++ escapeBasic rest

/-- A text as it is written between three double quotes; `run` counts the quotes written right in
front, of which no third follows. -/
def escapeMulti (run : Nat) : Text → Text
  | [] => []
  | '"' :: rest =>
    if run = 2 then '\\' :: '"' :: escapeMulti 0 rest else '"' :: escapeMulti (run + 1) rest
  | '\n' :: rest => '\n' :: escapeMulti 0 rest
  | c :: rest => escapeChar c ++ escapeMulti 0 rest

/-- The line break behind three opening quotes, for texts with line breaks. -/
def leadingBreak (t : Text) : Text :=
  if t.contains '\n' then "\n" else ""

/-- A text as a string in its form. -/
def writeString (t : Text) : Text :=
  match Form.of t with
  | .basic => "\"" ++ escapeBasic t ++ "\""
  | .literal => "'" ++ t ++ "'"
  | .multiBasic => "\"\"\"" ++ leadingBreak t ++ escapeMulti 0 t ++ "\"\"\""
  | .multiLiteral => "'''" ++ leadingBreak t ++ t ++ "'''"

end DeclAtlas.Toml
