import DeclAtlas.Toml.Quotation
import DeclAtlas.Toml.Scalar

/-!
# Reading TOML

A document is a sequence of lines: keys with values, headers, comments and empty lines.  Values may
be nested in arrays and braces up to a fixed depth.

Lists of things are read by loops that go on with what is left of the text; a loop ends in failure
if a round takes nothing of the text.
-/

namespace DeclAtlas.Toml

/-! ## Blanks and comments -/

/-- Whether a character is a blank within a line. -/
def isLineBlank (c : Char) : Bool :=
  c == ' ' || c == '\t'

/-- The text without the blanks in front. -/
def skipBlanks (t : Text) : Text :=
  t.dropWhile isLineBlank

/-- What follows a comment, up to the line break that ends it; the text begins behind the `#`. -/
def skipComment? : Text → Option Text
  | [] => some []
  | '\n' :: rest => some ('\n' :: rest)
  | '\r' :: '\n' :: rest => some ('\n' :: rest)
  | c :: rest => if isPlain c then skipComment? rest else none

/-- What follows a line break, in front of which may be blanks and a comment; the end of the text
counts as one. -/
def endLine? (t : Text) : Option Text :=
  let atEnd (t : Text) : Option Text :=
    match t with
    | [] => some []
    | '\n' :: rest => some rest
    | '\r' :: '\n' :: rest => some rest
    | _ => none
  match skipBlanks t with
  | '#' :: comment => (skipComment? comment).bind atEnd
  | t => atEnd t

/-- What follows the blanks, line breaks and comments in front of a text; `inComment` says that the
text begins inside a comment. -/
def skipGaps? (inComment : Bool) : Text → Option Text
  | [] => some []
  | '\r' :: '\n' :: rest => skipGaps? false rest
  | '\n' :: rest => skipGaps? false rest
  | c :: rest =>
    if inComment then if isPlain c then skipGaps? true rest else none
    else if c == '#' then skipGaps? true rest
    else if isLineBlank c then skipGaps? false rest
    else some (c :: rest)

/-! ## Keys -/

/-- The characters of keys without quotes. -/
def isKeyChar (c : Char) : Bool :=
  c.isAlphanum || c == '_' || c == '-'

/-- Reads one part of a key. -/
def readKeyPart? (t : Text) : Option (Text × Text) :=
  match t with
  | '"' :: rest => readBasic? rest
  | '\'' :: rest => readLiteral? rest
  | _ =>
    let key := t.takeWhile isKeyChar
    if key.isEmpty then none else some (key, t.dropWhile isKeyChar)

/-- How many parts a key has at most, and how deep values may be nested. -/
def maxDepth : Nat := 79

/-- Reads a dotted key of at most the given number of parts, with the blanks around it. -/
def readKey? : (parts : Nat) → Text → Option (List Text × Text)
  | 0, _ => none
  | parts + 1, t => do
    let (key, rest) ← readKeyPart? (skipBlanks t)
    match skipBlanks rest with
    | '.' :: more => do
      let (keys, rest) ← readKey? parts more
      some (key :: keys, rest)
    | rest => some ([key], rest)

/-! ## Values -/

/-- Reads the items of an array behind the opening bracket or a comma. -/
def readItems? (readItem : Text → Option (Toml × Text)) (t : Text) :
    Option (List Toml × Text) :=
  match skipGaps? false t with
  | some (']' :: rest) => some ([], rest)
  | some start =>
    match readItem start with
    | none => none
    | some (item, rest) =>
      match skipGaps? false rest with
      | some (']' :: rest) => some ([item], rest)
      | some (',' :: rest) =>
        if rest.length < t.length then
          (readItems? readItem rest).map fun (items, rest) => (item :: items, rest)
        else none
      | _ => none
  | none => none
termination_by t.length

/-- Reads a key with its value. -/
def readPair? (readItem : Text → Option (Toml × Text)) (t : Text) :
    Option (List Text × Toml × Text) := do
  let (keys, rest) ← readKey? maxDepth t
  match rest with
  | '=' :: rest => do
    let (value, rest) ← readItem (skipBlanks rest)
    some (keys, value, rest)
  | _ => none

/-- Reads the keys and values of a table in braces, of which at least one is to come. -/
def readPairs? (readItem : Text → Option (Toml × Text)) (entries : Entries) (t : Text) :
    Option (Entries × Text) :=
  match readPair? readItem t with
  | none => none
  | some (keys, value, rest) =>
    match insert value keys entries with
    | none => none
    | some entries =>
      match skipBlanks rest with
      | '\x7d' :: rest => some (entries, rest)
      | ',' :: rest =>
        if rest.length < t.length then readPairs? readItem entries rest else none
      | _ => none
termination_by t.length

/-- Reads a value that is nested at most `depth` deep. -/
def readValue? : (depth : Nat) → Text → Option (Toml × Text)
  | depth, '[' :: rest =>
    match depth with
    | 0 => none
    | depth + 1 =>
      (readItems? (fun t => readValue? depth t) rest).map fun (items, rest) => (.array items, rest)
  | depth, '\x7b' :: rest =>
    match depth with
    | 0 => none
    | depth + 1 =>
      match skipBlanks rest with
      | '\x7d' :: rest => some (.table .inline [], rest)
      | rest =>
        (readPairs? (fun t => readValue? depth t) [] rest).map fun (entries, rest) =>
          (.table .inline entries, rest)
  | _, '"' :: rest => (readString? ('"' :: rest)).map fun (t, rest) => (.string t, rest)
  | _, '\'' :: rest => (readString? ('\'' :: rest)).map fun (t, rest) => (.string t, rest)
  | _, t => readWord? t

/-! ## Lines -/

/-- A document that is being read. -/
structure Draft where
  /-- The keys and values so far. -/
  entries : Entries := []
  /-- The keys of the header that the next line belongs to. -/
  header : List Text := []
  deriving Repr

/-- Reads the header of a table behind its opening bracket. -/
def readHeader? (draft : Draft) (t : Text) : Option (Draft × Text) :=
  match t with
  | '[' :: t => do
    let (keys, rest) ← readKey? maxDepth t
    match rest with
    | ']' :: ']' :: rest => do
      let entries ← openTables keys.dropLast (← keys.getLast?) draft.entries
      some ({ entries, header := keys }, ← endLine? rest)
    | _ => none
  | _ => do
    let (keys, rest) ← readKey? maxDepth t
    match rest with
    | ']' :: rest => do
      let entries ← openTable keys.dropLast (← keys.getLast?) draft.entries
      some ({ entries, header := keys }, ← endLine? rest)
    | _ => none

/-- Reads one line. -/
def readLine? (draft : Draft) (t : Text) : Option (Draft × Text) :=
  match skipBlanks t with
  | [] => some (draft, [])
  | '\n' :: rest => some (draft, rest)
  | '\r' :: '\n' :: rest => some (draft, rest)
  | '#' :: rest => (endLine? ('#' :: rest)).map fun rest => (draft, rest)
  | '[' :: rest => readHeader? draft rest
  | t => do
    let (keys, value, rest) ← readPair? (readValue? maxDepth) t
    let entries ← alterAlong (insert value keys) draft.header draft.entries
    some ({ draft with entries }, ← endLine? rest)

/-- Reads all lines. -/
def readLines? (draft : Draft) (t : Text) : Option Draft :=
  if t.isEmpty then some draft
  else
    match readLine? draft t with
    | none => none
    | some (draft, rest) => if rest.length < t.length then readLines? draft rest else none
termination_by t.length

/-- Reads a document; a byte order mark in front is passed over. -/
def read? (t : Text) : Option Entries :=
  (readLines? {} (Text.withoutMark t)).map Draft.entries

end DeclAtlas.Toml
