import Mathlib
import DeclAtlas.Proofs.Header.Regular
import DeclAtlas.Proofs.Reader.Chunk
import DeclAtlas.Proofs.Text.WordChar
import DeclAtlas.Proofs.Tree.Plant

/-!
# Declarations as they are written

The regular part of the language: containers, enums, fields, methods and properties, with
documentation lines, visibilities and modifiers in front.  A list of declarations is printed by
`Declarations.print`; `Declarations.forest` says which elements it declares and what is below what.

    /// Points.
    public struct P : I {
    private int x = 0, y;
    int Dot(P a, P b) { return a.x * b.x; }
    }

What a text must not hold is part of its type: words have no characters but letters, digits, `_`
and `.` and are no keywords, documentation is one line, and bodies are balanced.
-/

namespace DeclAtlas.Declaration

open Text

/-! ## Words -/

/-- The words that mean something to the reader of headers. -/
def keywords : List Text :=
  Header.reservedWords ++
    [Kind.classType, .interfaceType, .nameSpace, .enumType, .structType].map Kind.label

/-- A type, an identifier or a value. -/
structure Word where
  /-- The word as it is written. -/
  text : Text
  /-- A word is not empty. -/
  ne_nil : text ≠ [] := by decide
  /-- It has no other characters than letters, digits, `_` and `.`. -/
  chars : text.all isWordChar = true := by decide
  /-- It is no keyword. -/
  plain : text ∉ keywords := by decide

/-! ## What stands in front of a declaration -/

/-- A documentation line. -/
structure DocLine where
  /-- What stands behind the three slashes. -/
  text : Text
  /-- It is one line. -/
  single : '\n' ∉ text := by decide

/-- A documentation line as it is written. -/
def DocLine.print (line : DocLine) : Text :=
  ['/', '/', '/'] ++ line.text ++ ['\n']

/-- Documentation lines as they are written. -/
def printDocs (docs : List DocLine) : Text :=
  docs.flatMap DocLine.print

/-- The summary that documentation lines make. -/
def summary (docs : List DocLine) : Text :=
  docs.flatMap fun line => trim line.text ++ ['\n']

/-- Documentation, visibility and modifiers. -/
structure Preamble where
  /-- The documentation lines. -/
  docs : List DocLine := []
  /-- The visibility, if it is stated. -/
  visibility : Option Visibility := none
  /-- The modifiers. -/
  modifiers : List Text := []
  /-- A stated visibility has a keyword. -/
  visibility_ne : visibility ≠ some .unspecified := by decide
  /-- Modifiers are known. -/
  modifiers_mem : ∀ word ∈ modifiers, word ∈ Header.modifierWords := by decide

namespace Preamble

/-- The keywords in front of the type. -/
def words (p : Preamble) : List Text :=
  p.visibility.toList.map Visibility.label ++ p.modifiers

/-- The element that is declared behind the preamble. -/
def element (p : Preamble) (parent : Option Kind) (kind : Kind) (type name : Text) : Element where
  name := name
  kind := kind
  visibility := p.visibility.getD (Visibility.implied kind parent)
  modifiers := p.modifiers
  type := .named type
  summary := summary p.docs

end Preamble

/-! ## Declared names -/

/-- A name with an optional value: one of the names of a field declaration, or a member of an
enum. -/
structure Variable where
  /-- The name. -/
  name : Word
  /-- The value, if there is one. -/
  value : Option Word := none

/-- A value with its equals sign. -/
def printValue : Option Word → Text
  | none => []
  | some value => ' ' :: '=' :: ' ' :: value.text

/-- The text of a value, which may be missing. -/
def valueText (value : Option Word) : Text :=
  (value.map Word.text).getD []

/-- A variable as it is written. -/
def Variable.print (v : Variable) : Text :=
  v.name.text ++ printValue v.value

/-- A further name of a field declaration only has a name and a value of its own. -/
def Variable.following (element : Element) (v : Variable) : Element :=
  { element with name := v.name.text, defaultValue := valueText v.value, summary := [] }

/-- A member of an enum. -/
structure Member extends Variable where
  /-- The documentation lines. -/
  docs : List DocLine := []

/-- A member as it is written. -/
def Member.print (m : Member) : Text :=
  '\n' :: (printDocs m.docs ++ m.toVariable.print)

/-- The members of an enum are public variables without a type. -/
def Member.element (m : Member) : Element where
  name := m.name.text
  kind := .field
  visibility := .publicAccess
  defaultValue := valueText m.value
  summary := summary m.docs

/-- A parameter of a method. -/
structure Parameter where
  /-- The type. -/
  type : Word
  /-- The name. -/
  name : Word

/-- A parameter as it is written. -/
def Parameter.print (p : Parameter) : Text :=
  p.type.text ++ ' ' :: p.name.text

/-- The name of a method with its parameter list. -/
def signature (name : Word) (parameters : List Parameter) : Text :=
  name.text ++ '(' :: join ", " (parameters.map Parameter.print) ++ [')']

/-- The inside of a body. -/
structure BodyText where
  /-- What stands between the braces. -/
  text : Text
  /-- Its braces are balanced. -/
  balanced : Builder.balanced 0 text = true := by decide
  /-- It has no quotes, slashes and signs. -/
  chars : text.all (fun c => !opensRegion c) = true := by decide

/-- The head of a container or enum. -/
structure Head where
  /-- What stands in front of the keyword. -/
  preamble : Preamble := {}
  /-- The name. -/
  name : Word
  /-- The base, if there is one. -/
  base : Option Word := none

namespace Head

/-- The words of the name and the base. -/
def nameWords (h : Head) : List Text :=
  match h.base with
  | none => [h.name.text]
  | some base => [h.name.text, [':'], base.text]

/-- The head with its opening brace. -/
def print (h : Head) (kind : Kind) : Text :=
  '\n' :: (printDocs h.preamble.docs ++ join " " (h.preamble.words ++ [kind.label]) ++
    ' ' :: join " " h.nameWords ++ [' ', '\x7b'])

/-- The declared container or enum. -/
def element (h : Head) (parent : Option Kind) (kind : Kind) : Element :=
  { h.preamble.element parent kind kind.label h.name.text with bases := valueText h.base }

end Head

/-- A declaration that holds no lists of declarations. -/
inductive Simple where
  | enumeration (head : Head) (members : List Member)
  | fields (preamble : Preamble) (type : Word) (first : Variable) (others : List Variable)
  | method (preamble : Preamble) (type name : Word) (parameters : List Parameter) (body : BodyText)
  | property (preamble : Preamble) (type name : Word) (body : BodyText)

namespace Simple

/-- The element that the first name of a field declaration declares. -/
def firstField (p : Preamble) (parent : Option Kind) (type : Word) (first : Variable) : Element :=
  { p.element parent .field type.text first.name.text with defaultValue := valueText first.value }

/-- A declaration as it is written. -/
def print : Simple → Text
  | enumeration head members =>
    head.print .enumType ++ join "," (members.map Member.print) ++ ['\n', '\x7d']
  | fields p type first others =>
    '\n' :: (printDocs p.docs ++ join " " (p.words ++ [type.text]) ++ ' ' :: first.print ++
      others.flatMap (fun v => ',' :: ' ' :: v.print) ++ [';'])
  | method p type name parameters body =>
    '\n' :: (printDocs p.docs ++ join " " (p.words ++ [type.text]) ++
      ' ' :: signature name parameters ++ [' ', '\x7b'] ++ body.text ++ ['\x7d'])
  | property p type name body =>
    '\n' :: (printDocs p.docs ++ join " " (p.words ++ [type.text]) ++
      ' ' :: name.text ++ [' ', '\x7b'] ++ body.text ++ ['\x7d'])

/-- The elements that are declared in a place of the given kind. -/
def forest (parent : Option Kind) : Simple → Forest
  | enumeration head members =>
    .cons (head.element parent .enumType) (.ofList (members.map Member.element)) .nil
  | fields p type first others =>
    let element := firstField p parent type first
    .ofList (element :: others.map (Variable.following element))
  | method p type name parameters _ =>
    .cons (p.element parent .function type.text (signature name parameters)) .nil .nil
  | property p type name _ => .cons (p.element parent .property type.text name.text) .nil .nil

end Simple

/-- The kinds of containers whose members are declarations. -/
inductive ContainerKind where
  | nameSpace
  | classType
  | interfaceType
  | structType

/-- The kind of the container. -/
def ContainerKind.kind : ContainerKind → Kind
  | nameSpace => .nameSpace
  | classType => .classType
  | interfaceType => .interfaceType
  | structType => .structType

end DeclAtlas.Declaration

namespace DeclAtlas

open Declaration

/-- A list of declarations. -/
inductive Declarations where
  | nil
  | container (kind : ContainerKind) (head : Head) (members rest : Declarations)
  | simple (declaration : Simple) (rest : Declarations)

namespace Declarations

/-- Declarations as they are written. -/
def print : Declarations → Text
  | nil => []
  | container kind head members rest =>
    head.print kind.kind ++ members.print ++ ['\n', '\x7d'] ++ rest.print
  | simple declaration rest => declaration.print ++ rest.print

/-- The elements that are declared in a place of the given kind. -/
def forest (parent : Option Kind) : Declarations → Forest
  | nil => .nil
  | container kind head members rest =>
    .cons (head.element parent kind.kind) (members.forest (some kind.kind)) (rest.forest parent)
  | simple declaration rest => (declaration.forest parent).append (rest.forest parent)

/-- A namespace with a documented structure and an enum. -/
def geometry : Declarations :=
  .container .nameSpace { name := { text := "Geo.Plane" } }
    (.container .structType
      { preamble :=
          { docs := [{ text := " A point" }, { text := " of the plane. " }]
            visibility := some .publicAccess
            modifiers := ["readonly"] }
        name := { text := "Point" }
        base := some { text := "IShape" } }
      (.simple
        (.fields { visibility := some .privateAccess } { text := "int" }
          { name := { text := "x" }, value := some { text := "0" } } [{ name := { text := "y" } }])
        (.simple
          (.method { modifiers := ["static"] } { text := "int" } { text := "Dot" }
            [{ type := { text := "Point" }, name := { text := "a" } },
              { type := { text := "Point" }, name := { text := "b" } }]
            { text := " if (a < b) \x7b return 0; \x7d return 1; " })
          (.simple (.property {} { text := "bool" } { text := "IsZero" } { text := " get; " })
            .nil)))
      (.simple
        (.enumeration { name := { text := "Axis" } }
          [{ name := { text := "X" } },
            { name := { text := "Y" }
              value := some { text := "4" }
              docs := [{ text := "Up." }] }])
        .nil))
    .nil

end Declarations

end DeclAtlas
