import DeclAtlas.Header.Reading
import DeclAtlas.Scanner.Basic

/-!
# Boundaries

A boundary character in plain text ends the header in front of it, outside brackets and bodies.
The header is read, its declaration is added to the tree, and braces open and close scopes.
-/

namespace DeclAtlas

/-- Adds a declaration below a node, or finds it: a name declared again in the same place only
adds its documentation to the first declaration.  If `inherits` is set, a new declaration takes all
but its name, default value and documentation from the one before it.  Gives the tree and the
declared node. -/
def Tree.declare (tree : Tree) (parent : NodeId) (inherits : Bool) (element : Element) :
    Tree × NodeId :=
  match tree.findChild? parent element.name with
  | some existing => (tree.appendSummary existing element.summary, existing)
  | none =>
    let sibling := if inherits then (tree.lastChild? parent).bind tree.element? else none
    let element :=
      match sibling with
      | none => element
      | some sibling =>
        { sibling with
          name := element.name
          defaultValue := element.defaultValue
          summary := element.summary
          exportable := false }
    (tree.addChild parent element, tree.size)

namespace Scanner

/-- The place in which the next header is read. -/
def context (s : Scanner) (boundary : Boundary) : HeaderContext :=
  { boundary
    parent := s.tree.kind? s.current
    previous := (s.tree.lastChild? s.current).bind s.tree.kind? }

/-- The header in front of the next character. -/
def header (s : Scanner) : Text :=
  s.source.sliceExcluding s.spanStart s.offset s.excluded

/-- Takes in what a header says, and gives the node that a block behind it belongs to.  A name
without a type repeats the declaration before it, unless a block follows. -/
def take (s : Scanner) (boundary : Boundary) : Header → Scanner × NodeId
  | .importing => (s, s.current)
  | .initializer =>
    ({ s with body := some { depth := s.nesting, isInitializer := true } }, s.current)
  | .nothing => ({ s with summary := [] }, s.current)
  | .declaration element opensBody =>
    let inherits := element.type.isAbsent && boundary != .opening
    let (tree, node) := s.tree.declare s.current inherits { element with summary := s.summary }
    let body := if opensBody then some { depth := s.nesting, isInitializer := false } else s.body
    ({ s with tree, summary := [], body }, node)

/-- Opens or closes a scope at a boundary. -/
def moveScope (s : Scanner) (boundary : Boundary) (node : NodeId) (openedAt : Nat) : Scanner :=
  match boundary with
  | .opening => { s with scopes := { node, openedAt } :: s.scopes }
  | .closing => { s with scopes := s.scopes.tail }
  | .comma | .semicolon => s

/-- Counts the braces. -/
def moveNesting (nesting : Nat) : Boundary → Nat
  | .opening => nesting + 1
  | .closing => nesting - 1
  | .comma | .semicolon => nesting

/-- Leaves a body or initializer behind its closing brace.  What was documented inside a body is
dropped. -/
def leaveBody (s : Scanner) (body : Body) : Scanner :=
  { s with
    body := none
    scopes := s.scopes.tail
    summary := if body.isInitializer then s.summary else []
    spanStart := s.offset + 1
    excluded := [] }

/-- Reads the header in front of a boundary and starts the next one behind it. -/
def readHeader (s : Scanner) (boundary : Boundary) : Scanner :=
  let reading := Header.read (s.context boundary) s.header
  let (taken, node) := (s.startSpan (s.offset + 1)).take boundary reading
  taken.moveScope boundary node s.offset

/-- Meets a boundary character in plain text.  It means nothing inside brackets, and a comma means
nothing inside what may be type arguments. -/
def boundary (s : Scanner) (boundary : Boundary) : Scanner :=
  if 0 < s.brackets ∨ (boundary = .comma ∧ s.maybeGeneric) then s
  else
    let s := { s with maybeGeneric := false, nesting := moveNesting s.nesting boundary }
    match s.body with
    | none => s.readHeader boundary
    | some body =>
      if boundary = .closing ∧ s.nesting < body.depth then s.leaveBody body else s

end Scanner

end DeclAtlas
