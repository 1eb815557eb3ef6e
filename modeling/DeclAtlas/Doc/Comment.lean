import DeclAtlas.Markup.Event

/-!
# Documentation comments

The documentation of an element is markup with the sections `summary`, `returns`, `remarks` and
`param`.  Text belongs to the innermost section around it; other elements make no difference, and
a reference to another element counts as the name it refers to.  Text outside all sections is the
summary if there is no other.  Documentation that is not markup is a summary as a whole.
-/

namespace DeclAtlas

/-- The sections of a documentation comment. -/
structure DocComment where
  /-- What the element is for. -/
  summary : Text := []
  /-- What a function returns. -/
  returns : Text := []
  /-- Further remarks. -/
  remarks : Text := []
  /-- Name and description of each described parameter, in order. -/
  params : List (Text × Text) := []
  deriving DecidableEq, Repr

namespace DocComment

/-- Whether no section has any text. -/
def isEmpty (doc : DocComment) : Bool :=
  doc.summary.isEmpty && doc.returns.isEmpty && doc.remarks.isEmpty && doc.params.isEmpty

/-- The description of the first described parameter of a name. -/
def param? (doc : DocComment) (name : Text) : Option Text :=
  doc.params.lookup name

/-! ## Sections -/

/-- Where text belongs. -/
inductive Section where
  /-- Outside all sections. -/
  | loose
  | summary
  | returns
  | remarks
  /-- The parameter with this number. -/
  | param (index : Nat)
  deriving DecidableEq, Repr

/-- The state of reading. -/
structure Reader where
  /-- The sections read so far. -/
  doc : DocComment := {}
  /-- The text outside all sections. -/
  loose : Text := []
  /-- The open elements, the innermost first, with the section that each belongs to. -/
  openElements : List (Text × Section) := []
  deriving DecidableEq, Repr

namespace Reader

/-- The section that text belongs to. -/
def current (reader : Reader) : Section :=
  match reader.openElements with
  | [] => .loose
  | (_, place) :: _ => place

/-- Adds text to the current section. -/
def addText (reader : Reader) (t : Text) : Reader :=
  let doc := reader.doc
  match reader.current with
  | .loose => { reader with loose := reader.loose ++ t }
  | .summary => { reader with doc := { doc with summary := doc.summary ++ t } }
  | .returns => { reader with doc := { doc with returns := doc.returns ++ t } }
  | .remarks => { reader with doc := { doc with remarks := doc.remarks ++ t } }
  | .param index =>
    let params := doc.params.modify index fun (name, description) => (name, description ++ t)
    { reader with doc := { doc with params } }

/-- Opens an element. -/
def openElement (reader : Reader) (name : Text) (place : Section) : Reader :=
  { reader with openElements := (name, place) :: reader.openElements }

/-- Opens an element that describes a parameter. -/
def openParam (reader : Reader) (name param : Text) : Reader :=
  let params := reader.doc.params
  { reader with doc := { reader.doc with params := params ++ [(param, [])] } }.openElement name
    (.param params.length)

end Reader

/-! ## Reading -/

/-- The value of an attribute with its entities read: nothing if the tag is malformed, and an
absent value if the tag has no such attribute. -/
def attribute? (tag : Markup.Tag) (key : Text) : Option (Option Text) :=
  match Markup.lookup key tag.attributes with
  | .malformed => none
  | .absent => some none
  | .found value => (Markup.unescape? value).map some

/-- The attribute in which an element without content refers to something. -/
def referenceKey? (name : Text) : Option Text :=
  if name = "see".toList ∨ name = "seealso".toList then some "cref"
  else if name = "paramref".toList ∨ name = "typeparamref".toList then some "name"
  else none

/-- The name that a reference shows: a one-byte prefix with a colon is left out. -/
def referenceName (reference : Text) : Text :=
  match Text.cutAt? ':' reference with
  | some (front, name) => if Text.byteSize front = 1 then name else reference
  | none => reference

/-- Reads one event. -/
def readEvent? (reader : Reader) : Markup.Event → Option Reader
  | .text t => (Markup.unescape? t).map reader.addText
  | .verbatim t => some (reader.addText t)
  | .aside => some reader
  | .opening tag =>
    if tag.name = "summary".toList then some (reader.openElement tag.name .summary)
    else if tag.name = "returns".toList then some (reader.openElement tag.name .returns)
    else if tag.name = "remarks".toList then some (reader.openElement tag.name .remarks)
    else if tag.name = "param".toList then
      (attribute? tag "name").map fun param => reader.openParam tag.name (param.getD [])
    else some (reader.openElement tag.name reader.current)
  | .closing name =>
    match reader.openElements with
    | [] => none
    | (opened, _) :: outer =>
      if name = opened then some { reader with openElements := outer } else none
  | .empty tag =>
    match referenceKey? tag.name with
    | none => some reader
    | some key => (attribute? tag key).map fun reference =>
      match reference with
      | none => reader
      | some reference => reader.addText (referenceName reference)

/-- The sections at the end of reading, with blanks collapsed. -/
def finish (reader : Reader) : DocComment :=
  let summary :=
    if Text.isAllBlank reader.doc.summary then reader.loose else reader.doc.summary
  { summary := Text.collapse summary
    returns := Text.collapse reader.doc.returns
    remarks := Text.collapse reader.doc.remarks
    params := reader.doc.params.map fun (name, t) => (name, Text.collapse t) }

/-- Reads documentation as markup. -/
def ofMarkup? (t : Text) : Option DocComment := do
  let events ← Markup.events? ("<doc>" ++ t ++ "</doc>")
  let reader ← events.foldlM readEvent? {}
  some (finish reader)

/-- Reads documentation. -/
def ofText (t : Text) : DocComment :=
  if Text.isAllBlank t then {}
  else (ofMarkup? t).getD { summary := Text.collapse t }

end DocComment

end DeclAtlas
