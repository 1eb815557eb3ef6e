import DeclAtlas.Tree.Branch

/-!
# Outlines

The outline of a branch as indented text: one line per node, two spaces deeper on each level.
-/

namespace DeclAtlas

/-- The type in an outline line, with a colon in front. -/
def TypeForm.outlineTag (type : TypeForm) : Text :=
  if type.isAbsent then "" else ": " ++ type.text

/-- The outline line of a declaration behind its label: visibility, kind and, if there is one,
type. -/
def Element.outlineTag (element : Element) : Text :=
  " [" ++ element.visibility.label ++ " " ++ element.kind.label ++ element.type.outlineTag ++ "]"

namespace Branch

/-- The outline line of a node without indentation and line break. -/
def outlineHead (label : Text) : Option Element → Text
  | none => label
  | some element => label ++ element.outlineTag

mutual

/-- The outline of a branch at a depth. -/
def outlineAt (depth : Nat) : Branch → Text
  | node _ label element children =>
    List.replicate (2 * depth) ' ' ++ outlineHead label element ++ ['\n'] ++
      outlineOfAll (depth + 1) children

/-- The outlines of several branches, one after the other. -/
def outlineOfAll (depth : Nat) : List Branch → Text
  | [] => []
  | branch :: branches => branch.outlineAt depth ++ outlineOfAll depth branches

end

/-- The outline of a branch. -/
def outline (branch : Branch) : Text :=
  branch.outlineAt 0

end Branch

/-- The outline of the branch at a node. -/
def Tree.outline (tree : Tree) (id : NodeId) : Text :=
  (tree.branch id).outline

end DeclAtlas
