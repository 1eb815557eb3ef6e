import DeclAtlas.Json.Basic
import DeclAtlas.Tree.Branch

/-!
# Outlines as records

The outline of a branch for other programs: a JSON object for each node, with the objects of the
nodes below it.
-/

namespace DeclAtlas

open Json

/-- The name of a kind in a record. -/
def Kind.tag : Kind → Text
  | .nameSpace => "Namespace"
  | .classType => "Class"
  | .interfaceType => "Interface"
  | .structType => "Struct"
  | .enumType => "Enum"
  | .function => "Function"
  | .property => "Property"
  | .field => "Variable"

/-- The name of a visibility in a record. -/
def Visibility.tag : Visibility → Text
  | .publicAccess => "Public"
  | .internalAccess => "Internal"
  | .protectedAccess => "Protected"
  | .privateAccess => "Private"
  | .unspecified => "Unspecified"

/-- A type in a record. -/
def TypeForm.record : TypeForm → Value
  | .absent => .text "None"
  | .constructor => .text "Constructor"
  | .named name => .object [("Named", .text name)]

/-- What a record says of an element, member by member. -/
def Element.members (element : Element) : List (Text × Value) :=
  [("name", .text element.name),
    ("kind", .text element.kind.tag),
    ("visibility", .text element.visibility.tag),
    ("modifiers", .array (element.modifiers.map .text)),
    ("declared_type", element.type.record),
    ("default_value", .text element.defaultValue),
    ("attributes", .text element.attributes),
    ("extends", .text element.bases),
    ("summary", .text element.summary),
    ("exportable", .flag element.exportable)]

namespace Branch

/-- The member for the nodes below a node.  It is left out if there are none. -/
def childrenMember (records : List Value) : List (Text × Value) :=
  if records.isEmpty then [] else [("children", .array records)]

mutual

/-- The record of a branch. -/
def record : Branch → Value
  | node _ label element children =>
    .object ([("label".toList, .text label)] ++ (element.map Element.members).getD [] ++
      childrenMember (recordsOfAll children))

/-- The records of several branches. -/
def recordsOfAll : List Branch → List Value
  | [] => []
  | branch :: branches => branch.record :: recordsOfAll branches

end

end Branch

/-- The record of the branch at a node. -/
def Tree.record (tree : Tree) (id : NodeId) : Value :=
  (tree.branch id).record

end DeclAtlas
