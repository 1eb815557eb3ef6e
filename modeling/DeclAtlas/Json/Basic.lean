import DeclAtlas.Text.Basic

/-!
# JSON

The part of JSON that outlines are written in: texts, truth values, arrays and objects.  Every
element of an array and every member of an object stands on a line of its own, two spaces deeper.
-/

namespace DeclAtlas.Json

/-- A value of JSON. -/
inductive Value where
  | text (t : Text)
  | flag (b : Bool)
  | array (items : List Value)
  | object (members : List (Text × Value))
  deriving Repr

/-- A character within quotes.  Control characters that have no letter of their own are given by
their number. -/
def escapeChar (c : Char) : Text :=
  match c with
  | '"' => "\\\""
  | '\\' => "\\\\"
  | '\n' => "\\n"
  | '\r' => "\\r"
  | '\t' => "\\t"
  | _ =>
    if c.toNat = 8 then "\\b"
    else if c.toNat = 12 then "\\f"
    else if c.toNat < 32 then
      "\\u00" ++ [Nat.digitChar (c.toNat / 16), Nat.digitChar (c.toNat % 16)]
    else [c]

/-- A text in quotes. -/
def quote (t : Text) : Text :=
  ['"'] ++ t.flatMap escapeChar ++ ['"']

/-- Lines between brackets, a comma behind each but the last.  Without lines the brackets stand
together. -/
def bracketed (opening closing : Char) (depth : Nat) (lines : List Text) : Text :=
  if lines.isEmpty then [opening, closing]
  else
    let indented := lines.map fun line => List.replicate (2 * (depth + 1)) ' ' ++ line
    [opening, '\n'] ++ Text.join [',', '\n'] indented ++ ['\n'] ++
      List.replicate (2 * depth) ' ' ++ [closing]

namespace Value

mutual

/-- A value as text, given how deep it stands. -/
def writeAt (depth : Nat) : Value → Text
  | text t => quote t
  | flag b => if b then "true" else "false"
  | array items => bracketed '[' ']' depth (writeItems (depth + 1) items)
  | object members => bracketed '\x7b' '\x7d' depth (writeMembers (depth + 1) members)

/-- The elements of an array as texts. -/
def writeItems (depth : Nat) : List Value → List Text
  | [] => []
  | item :: items => item.writeAt depth :: writeItems depth items

/-- The members of an object as texts. -/
def writeMembers (depth : Nat) : List (Text × Value) → List Text
  | [] => []
  | (name, value) :: members =>
    (quote name ++ [':', ' '] ++ value.writeAt depth) :: writeMembers depth members

end

/-- A value as text. -/
def write (value : Value) : Text :=
  value.writeAt 0

end Value

end DeclAtlas.Json
