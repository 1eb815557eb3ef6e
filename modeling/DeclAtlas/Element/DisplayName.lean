import DeclAtlas.Text.Alphanumeric

/-!
# Display names

The name of a function carries its parameter list.  Its display name keeps the types of the
parameters and drops their names and default values, so `M(int a, string b = "")` is shown as
`M(int, string)`.

The last word of a parameter is found behind the last blank, which has to be a one-byte
character; a wider blank there leaves the name without a display name.
-/

namespace DeclAtlas.DisplayName

/-- Splits a parameter list at the commas outside `<>`, `()` and `[]`.  The first argument counts
the brackets open so far; a closing bracket that closes nothing is passed over. -/
def parametersFrom (depth : Nat) : Text → List Text
  | [] => [[]]
  | c :: rest =>
    if c == ',' && depth == 0 then [] :: parametersFrom depth rest
    else
      let depth :=
        if c == '<' || c == '(' || c == '[' then depth + 1
        else if c == '>' || c == ')' || c == ']' then depth - 1
        else depth
      match parametersFrom depth rest with
      | [] => [[c]]
      | parameter :: parameters => (c :: parameter) :: parameters

/-- The parameters of a parameter list. -/
def parameters (t : Text) : List Text :=
  parametersFrom 0 t

/-- The characters of a parameter name. -/
def isNameChar (c : Char) : Bool :=
  Text.isAlphanumeric c || c == '_' || c == '@'

/-- The part of a parameter in front of its default value. -/
def withoutDefault (parameter : Text) : Text :=
  Text.trim (((Text.cutAt? '=' parameter).map Prod.fst).getD parameter)

/-- The last blank of a text. -/
def lastBlank? (t : Text) : Option Char :=
  t.reverse.find? Text.isBlank

/-- Drops the last word of a parameter if it can be a parameter name. -/
def withoutName? (parameter : Text) : Option Text :=
  if (lastBlank? parameter).any fun blank => 1 < blank.utf8Size then none
  else
    match Text.cutWhereLast? Text.isBlank parameter with
    | none => some parameter
    | some (front, last) =>
      some (if last.all isNameChar then Text.trimEnd front else parameter)

/-- The type of a parameter: neither its default value nor its name. -/
def parameterType? (parameter : Text) : Option Text :=
  withoutName? (withoutDefault parameter)

/-- The display name of a declared name.  The parameter list reaches from the first opening to the
last closing parenthesis; a name without one is its own display name. -/
def ofName? (name : Text) : Option Text :=
  match Text.cutAt? '(' name, Text.cutAtLast? ')' name with
  | some (front, _), some (body, rest) =>
    if body.length < front.length then some name
    else do
      let types ← (parameters (body.drop (front.length + 1))).mapM parameterType?
      some (front ++ '(' :: Text.join ", " (types.filter (!·.isEmpty)) ++ ')' :: rest)
  | _, _ => some name

/-- The display name, or the name itself where it has none. -/
def ofName (name : Text) : Text :=
  (ofName? name).getD name

end DeclAtlas.DisplayName
