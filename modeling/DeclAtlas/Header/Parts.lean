import DeclAtlas.Header.Basic
import DeclAtlas.Header.Comment

/-!
# The parts of a header

    [Attr] [Attr2] public static Dictionary<int, string> Name : Base = value
    attributes     keywords      type                    name   bases  default

A header is taken apart without a grammar: recognisable parts are taken off in a fixed order, and
what is left over at the end is the declared name.
-/

namespace DeclAtlas.Header

/-! ## Attributes -/

/-- Takes the groups `[…]` off the front of a text that has been split at its closing brackets:
the interiors of the groups, and the text behind them. -/
def takeAttributes : List Text → List Text × Text
  | [] => ([], [])
  | [last] => ([], Text.trimStart last)
  | piece :: pieces =>
    match Text.trimStart piece with
    | '[' :: interior =>
      let (interiors, rest) := takeAttributes pieces
      (interior :: interiors, rest)
    | front => ([], Text.join "]" (front :: pieces))

/-- The interiors of the leading groups `[…]` with commas between them, and the rest. -/
def splitAttributes (t : Text) : Text × Text :=
  let (interiors, rest) := takeAttributes (Text.splitAtChar ']' t)
  (Text.join ", " interiors, rest)

/-! ## Default value -/

/-- Cuts a text at its first equals sign outside a parameter list; `opened` says whether an opening
parenthesis has been passed.  An equals sign is taken to be inside a parameter list if a
parenthesis was opened before it and one is closed behind it. -/
def cutDefault? (opened : Bool) : Text → Option (Text × Text)
  | [] => none
  | c :: rest =>
    if c == '=' && !(opened && rest.contains ')') then some ([], rest)
    else (cutDefault? (opened || c == '(') rest).map fun (front, value) => (c :: front, value)

/-- What stands in front of the default value, and the default value. -/
def splitDefault (t : Text) : Text × Text :=
  match cutDefault? false t with
  | none => (t, [])
  | some (front, value) => (Text.trimEnd front, Text.trimStart value)

/-! ## Keywords -/

/-- The modifier keywords. -/
def modifierWords : List Text :=
  ["abstract", "async", "const", "event", "extern", "new", "override", "readonly", "sealed",
    "static", "unsafe", "virtual", "volatile"]

/-- Takes visibility and modifier keywords off the front of a list of words.  The first visibility
keyword gives the visibility, further ones count as modifiers, and `partial` is passed over. -/
def takeKeywords (visibility : Option Visibility) :
    List Text → Option Visibility × List Text × List Text
  | [] => (visibility, [], [])
  | word :: words =>
    match Visibility.ofKeyword? word with
    | some stated =>
      if visibility.isNone then takeKeywords (some stated) words
      else
        let (visibility, modifiers, rest) := takeKeywords visibility words
        (visibility, word :: modifiers, rest)
    | none =>
      if modifierWords.contains word then
        let (visibility, modifiers, rest) := takeKeywords visibility words
        (visibility, word :: modifiers, rest)
      else if word = "partial".toList then takeKeywords visibility words
      else (visibility, [], word :: words)

/-! ## Type -/

/-- Whether some of the words holds the character. -/
def anyHolds (words : List Text) (c : Char) : Bool :=
  words.any fun word => word.contains c

/-- Looks for the end of the type.  `front` holds the words passed so far.  The type ends at the
first blank that is neither behind `delegate` alone nor between angle brackets; if a parenthesis
has been opened by then there is no type but a constructor. -/
def takeType (front : List Text) : List Text → TypeForm × List Text
  | [] => (.absent, front)
  | word :: words =>
    if front = ["delegate".toList] ∨ (anyHolds front '<' ∧ anyHolds (word :: words) '>') then
      takeType (front ++ [word]) words
    else if anyHolds front '(' then (.constructor, front ++ word :: words)
    else (.named (Text.join " " front), word :: words)

/-- Splits the words behind the keywords into the type and the words behind it. -/
def splitType : List Text → TypeForm × List Text
  | [] => (.absent, [])
  | word :: words => takeType [word] words

/-! ## Bases -/

/-- What stands in front of the first colon, and what stands behind it. -/
def splitBases (t : Text) : Text × Text :=
  match Text.cutAt? ':' t with
  | none => (t, [])
  | some (front, bases) => (Text.trimEnd front, Text.trimStart bases)

/-! ## All parts -/

/-- The parts of a header. -/
structure Parts where
  /-- The interiors of the attribute groups. -/
  attributes : Text
  /-- The stated visibility. -/
  visibility : Option Visibility
  /-- The modifiers in order. -/
  modifiers : List Text
  /-- The type. -/
  type : TypeForm
  /-- The name with the bases behind it. -/
  nameAndBases : Text
  /-- The default value. -/
  defaultValue : Text
  /-- Whether an arrow `=>` was cut off. -/
  hasArrow : Bool
  deriving DecidableEq, Repr

namespace Parts

/-- The name, without the bases. -/
def name (parts : Parts) : Text :=
  (splitBases parts.nameAndBases).1

/-- The bases behind the name. -/
def bases (parts : Parts) : Text :=
  (splitBases parts.nameAndBases).2

end Parts

/-- Takes a single equals sign off the end of a header. -/
def dropTrailingEquals (t : Text) : Text :=
  if t.endsWith "=" && !t.endsWith "==" then Text.trimEnd t.dropLast else t

/-- Cuts a header at its first arrow; the second part says whether there was one. -/
def dropArrow (t : Text) : Text × Bool :=
  match Text.cutOn? "=>" t with
  | none => (t, false)
  | some (front, _) => (Text.trimEnd front, true)

/-- Takes a header without comments apart. -/
def parts (t : Text) : Parts :=
  let (t, hasArrow) := dropArrow (dropTrailingEquals t)
  let (attributes, t) := splitAttributes t
  let (t, defaultValue) := splitDefault t
  let (visibility, modifiers, words) := takeKeywords none (Text.words t)
  let (type, words) := splitType words
  { attributes, visibility, modifiers, type, nameAndBases := Text.join " " words, defaultValue,
    hasArrow }

end DeclAtlas.Header
