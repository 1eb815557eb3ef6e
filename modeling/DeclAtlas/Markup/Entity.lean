import DeclAtlas.Text.Basic

/-!
# Entities

In markup the characters `<`, `>`, `&` and the quotes are written as entities.  `escape` writes
them so; `unescape?` reads the five named entities and numeric ones, and refuses anything else that
an ampersand opens.
-/

namespace DeclAtlas.Markup

/-- A character as it is written in markup. -/
def escapeChar (c : Char) : Text :=
  match c with
  | '<' => "&lt;"
  | '>' => "&gt;"
  | '&' => "&amp;"
  | '\'' => "&apos;"
  | '"' => "&quot;"
  | _ => [c]

/-- A text as it is written in markup. -/
def escape (t : Text) : Text :=
  t.flatMap escapeChar

/-- The value of a digit in a base up to sixteen. -/
def digit? (base : Nat) (c : Char) : Option Nat :=
  let value :=
    if '0' ≤ c ∧ c ≤ '9' then c.toNat - '0'.toNat
    else if 'a' ≤ c ∧ c ≤ 'f' then c.toNat - 'a'.toNat + 10
    else if 'A' ≤ c ∧ c ≤ 'F' then c.toNat - 'A'.toNat + 10
    else base
  if value < base then some value else none

/-- The number that digits write; no digits write zero. -/
def number? (base : Nat) (digits : Text) : Option Nat :=
  digits.foldlM (fun n c => (digit? base c).map (base * n + ·)) 0

/-- The character of a code point other than zero. -/
def charOfCode? (code : Nat) : Option Char :=
  if code ≠ 0 ∧ code.isValidChar then some (Char.ofNat code) else none

/-- The character that an entity stands for, from what stands between `&` and `;`.  A number has at
most seven decimal or six hexadecimal digits. -/
def entity? (name : Text) : Option Char :=
  match name with
  | '#' :: 'x' :: digits =>
    if digits.length ≤ 6 then (number? 16 digits).bind charOfCode? else none
  | '#' :: digits => if digits.length ≤ 7 then (number? 10 digits).bind charOfCode? else none
  | _ =>
    if name = "lt".toList then some '<'
    else if name = "gt".toList then some '>'
    else if name = "amp".toList then some '&'
    else if name = "apos".toList then some '\''
    else if name = "quot".toList then some '"'
    else none

/-- Reads entities back.  `pending` holds what has been read of an entity that is still open. -/
def unescapeFrom? (pending : Option Text) : Text → Option Text
  | [] => if pending.isNone then some [] else none
  | c :: rest =>
    match pending with
    | none =>
      if c == '&' then unescapeFrom? (some []) rest
      else (unescapeFrom? none rest).map (c :: ·)
    | some name =>
      if c == '&' then none
      else if c == ';' then do
        let character ← entity? name
        let t ← unescapeFrom? none rest
        some (character :: t)
      else unescapeFrom? (some (name ++ [c])) rest

/-- The text that markup stands for. -/
def unescape? (t : Text) : Option Text :=
  unescapeFrom? none t

end DeclAtlas.Markup
