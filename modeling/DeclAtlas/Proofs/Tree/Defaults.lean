import Mathlib
import DeclAtlas.Proofs.Tree.WellFormed

/-!
# Trees up to default values

* `Tree.withoutDefaults`: the tree with all default values taken away and all else as it was.
* **Theorem** (`Tree.declare_withoutDefaults`): default values play no part in declaring: taking
  them away before a declaration or after it gives the same tree.
-/

namespace DeclAtlas

/-- The element with its default value taken away. -/
def Element.withoutDefault (element : Element) : Element :=
  { element with defaultValue := [] }

/-- The node with the default value of its element taken away. -/
def Node.withoutDefault (node : Node) : Node :=
  { node with element := node.element.map Element.withoutDefault }

namespace Tree

/-- The tree with all default values taken away. -/
def withoutDefaults (tree : Tree) : Tree :=
  { nodes := tree.nodes.map Node.withoutDefault }

/-! ## Looking at nodes -/

section look

variable (tree : Tree)

/-- Default values are no nodes. -/
@[simp] theorem size_withoutDefaults : tree.withoutDefaults.size = tree.size :=
  Array.size_map

/-- A node without default values has an element without one. -/
theorem node?_withoutDefaults (id : Nat) :
    tree.withoutDefaults.node? id = (tree.node? id).map Node.withoutDefault :=
  Array.getElem?_map

/-- Taking default values away changes nothing else about an element. -/
theorem element?_withoutDefaults (id : Nat) :
    tree.withoutDefaults.element? id = (tree.element? id).map Element.withoutDefault := by
  rw [element?, element?, node?_withoutDefaults]
  cases tree.node? id <;> rfl

/-- Default values do not matter for kinds. -/
@[simp] theorem kind?_withoutDefaults (id : Nat) :
    tree.withoutDefaults.kind? id = tree.kind? id := by
  rw [kind?, kind?, element?_withoutDefaults]
  cases tree.element? id <;> rfl

/-- Default values do not matter for children. -/
@[simp] theorem children_withoutDefaults (id : Nat) :
    tree.withoutDefaults.children id = tree.children id := by
  rw [children, children, node?_withoutDefaults]
  cases tree.node? id <;> rfl

/-- Default values do not matter for the last child. -/
@[simp] theorem lastChild?_withoutDefaults (id : Nat) :
    tree.withoutDefaults.lastChild? id = tree.lastChild? id := by
  rw [lastChild?, lastChild?, children_withoutDefaults]

/-- Default values do not matter for names. -/
theorem isNamed_withoutDefaults (id : Nat) (name : Text) :
    tree.withoutDefaults.isNamed id name = tree.isNamed id name := by
  rw [isNamed, isNamed, element?_withoutDefaults]
  cases tree.element? id <;> rfl

/-- Default values do not matter when a child is looked up. -/
@[simp] theorem findChild?_withoutDefaults (parent : Nat) (name : Text) :
    tree.withoutDefaults.findChild? parent name = tree.findChild? parent name := by
  simp only [findChild?, children_withoutDefaults, isNamed_withoutDefaults]

end look

/-! ## Changing a tree -/

section change

variable (tree : Tree) (parent : Nat) (element : Element)

/-- A child may be added before or after default values are taken away. -/
theorem addChild_withoutDefaults :
    tree.withoutDefaults.addChild parent element.withoutDefault =
      (tree.addChild parent element).withoutDefaults := by
  apply ext_node?
  intro id
  rw [node?_withoutDefaults, node?_addChild, node?_addChild, size_withoutDefaults,
    node?_withoutDefaults]
  split_ifs
  · rfl
  · cases tree.node? id <;> rfl
  · rfl

/-- Documentation may be added before or after default values are taken away. -/
theorem appendSummary_withoutDefaults (id : Nat) (summary : Text) :
    tree.withoutDefaults.appendSummary id summary =
      (tree.appendSummary id summary).withoutDefaults := by
  apply ext_node?
  intro other
  rw [appendSummary, appendSummary, node?_withoutDefaults, node?_modifyElement,
    node?_modifyElement, node?_withoutDefaults]
  split_ifs
  · cases tree.node? other <;> simp [Node.withoutDefault, Element.withoutDefault, Function.comp_def]
  · rfl

/-- No default value is taken from a sibling. -/
theorem inherit_withoutDefaults (inherits : Bool) :
    tree.withoutDefaults.inherit parent inherits element.withoutDefault =
      (tree.inherit parent inherits element).withoutDefault := by
  cases inherits with
  | false => rfl
  | true =>
      unfold inherit
      simp only [if_true, lastChild?_withoutDefaults]
      cases tree.lastChild? parent with
      | none => rfl
      | some sibling =>
          simp only [Option.bind_some, element?_withoutDefaults]
          cases tree.element? sibling <;> rfl

/-- **Default values play no part in declaring.** -/
theorem declare_withoutDefaults (inherits : Bool) :
    tree.withoutDefaults.declare parent inherits element.withoutDefault =
      ((tree.declare parent inherits element).1.withoutDefaults,
        (tree.declare parent inherits element).2) := by
  have hfind : tree.withoutDefaults.findChild? parent element.withoutDefault.name =
      tree.findChild? parent element.name := tree.findChild?_withoutDefaults parent element.name
  cases hfound : tree.findChild? parent element.name with
  | some existing =>
      rw [declare_of_some (hfind.trans hfound), declare_of_some hfound]
      exact congrArg (·, existing) (tree.appendSummary_withoutDefaults existing element.summary)
  | none =>
      rw [declare_of_none (hfind.trans hfound), declare_of_none hfound, inherit_withoutDefaults,
        addChild_withoutDefaults, size_withoutDefaults]

end change

end Tree

end DeclAtlas
