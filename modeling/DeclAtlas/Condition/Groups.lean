/-!
# Conditional groups

The groups `#if … #endif` that are open at one point of a source, and whether the text at that
point is skipped.  Within a group a branch is read if the surrounding text is read and, for `#if`
and `#elif`, its own condition holds; `#else` is read if no condition of its group has held.
-/

namespace DeclAtlas

/-- One open group. -/
structure ConditionalGroup where
  /-- Whether the text around the group is read. -/
  outerActive : Bool
  /-- Whether the condition of some branch has held, or `#else` has been met. -/
  taken : Bool
  /-- Whether the current branch is read. -/
  active : Bool
  deriving DecidableEq, Repr

/-- The open groups, the innermost first. -/
structure ConditionalGroups where
  /-- The groups from the innermost to the outermost. -/
  stack : List ConditionalGroup := []
  deriving DecidableEq, Repr

namespace ConditionalGroups

instance : Inhabited ConditionalGroups := ⟨{}⟩

/-- Whether the text at this point is left out. -/
def isSkipping (groups : ConditionalGroups) : Bool :=
  match groups.stack with
  | [] => false
  | group :: _ => !group.active

/-- Opens a group whose first condition has the given truth value. -/
def openIf (groups : ConditionalGroups) (value : Bool) : ConditionalGroups :=
  let outerActive := !groups.isSkipping
  { stack := { outerActive, taken := value, active := outerActive && value } :: groups.stack }

/-- Starts a branch with a condition of its own; earlier branches play no part. -/
def elseIf (groups : ConditionalGroups) (value : Bool) : ConditionalGroups :=
  match groups.stack with
  | [] => groups
  | group :: outer =>
    { stack :=
        { group with active := group.outerActive && value, taken := group.taken || value }
          :: outer }

/-- Starts the branch that is read if no condition has held. -/
def otherwise (groups : ConditionalGroups) : ConditionalGroups :=
  match groups.stack with
  | [] => groups
  | group :: outer =>
    { stack := { group with active := group.outerActive && !group.taken, taken := true } :: outer }

/-- Closes the innermost group, if one is open. -/
def close (groups : ConditionalGroups) : ConditionalGroups :=
  { stack := groups.stack.tail }

/-- The number of open groups. -/
def depth (groups : ConditionalGroups) : Nat :=
  groups.stack.length

end ConditionalGroups

end DeclAtlas
