import Mathlib
import DeclAtlas.Condition.Groups

/-!
# What the open groups mean

Whether text is skipped is decided by the innermost open group alone.  That this is right rests on
what every group remembers of the groups around it.  Directives may come in any order here, matched
or not: a group may have several `#else`, or `#elif` behind `#else`, and there may be more `#endif`
than groups.

* `Linked`: each group knows whether all groups around it are active, and is active only if they
  are.  Every action keeps this (`Linked.apply`), so it holds after every run (`Linked.run`).
* `suffix_run`: until an action meets a group itself, the group and all around it stay as they are.
* `Complete.run_eq`: complete groups leave no trace.
* **Theorem** (`run_reads`): text is read exactly where every open group is active; in a branch that
  is not read nothing is read before the branch ends; complete groups restore what was open.
-/

namespace DeclAtlas.ConditionalGroups

/-! ## Runs -/

/-- What a directive does to the open groups. -/
inductive Action where
  /-- `#if`, with the truth value of its condition. -/
  | openIf (value : Bool)
  /-- `#elif`, with the truth value of its condition. -/
  | elseIf (value : Bool)
  /-- `#else`. -/
  | otherwise
  /-- `#endif`. -/
  | close
  deriving DecidableEq, Repr

/-- Carries out one action. -/
def apply (groups : ConditionalGroups) : Action → ConditionalGroups
  | .openIf value => groups.openIf value
  | .elseIf value => groups.elseIf value
  | .otherwise => groups.otherwise
  | .close => groups.close

/-- Carries out actions one after the other. -/
def run (groups : ConditionalGroups) (actions : List Action) : ConditionalGroups :=
  actions.foldl apply groups

theorem run_cons (groups : ConditionalGroups) (action : Action) (actions : List Action) :
    groups.run (action :: actions) = (groups.apply action).run actions := rfl

theorem run_append (groups : ConditionalGroups) (first second : List Action) :
    groups.run (first ++ second) = (groups.run first).run second :=
  List.foldl_append

/-! ## One action -/

/-- What an action can do to the open groups: a group opens inside all others, the innermost one
starts another branch or closes, or there is none that could. -/
inductive Effect (groups : ConditionalGroups) : Action → List ConditionalGroup → Prop
  | opens (value : Bool) {group : ConditionalGroup}
      (houter : group.outerActive = true ↔ groups.isSkipping = false)
      (hactive : group.active = true → group.outerActive = true) :
      Effect groups (.openIf value) (group :: groups.stack)
  | rebranches {action : Action} {group changed : ConditionalGroup} {outer : List ConditionalGroup}
      (hstack : groups.stack = group :: outer) (haction : ∀ value, action ≠ .openIf value)
      (houter : changed.outerActive = group.outerActive)
      (hactive : changed.active = true → changed.outerActive = true) :
      Effect groups action (changed :: outer)
  | closes {group : ConditionalGroup} {outer : List ConditionalGroup}
      (hstack : groups.stack = group :: outer) : Effect groups .close outer
  | nothing {action : Action} (hstack : groups.stack = []) : Effect groups action []

/-- **What one action can do** to the open groups. -/
theorem effect_apply (groups : ConditionalGroups) (action : Action) :
    Effect groups action (groups.apply action).stack := by
  obtain ⟨stack⟩ := groups
  cases action with
  | openIf value =>
      refine .opens value ?_ fun hactive => (Bool.and_eq_true_iff.1 hactive).1
      rw [Bool.not_eq_true']
  | elseIf value =>
      rcases stack with _ | ⟨group, outer⟩
      · exact .nothing rfl
      · exact .rebranches rfl (by simp) rfl fun hactive => (Bool.and_eq_true_iff.1 hactive).1
  | otherwise =>
      rcases stack with _ | ⟨group, outer⟩
      · exact .nothing rfl
      · exact .rebranches rfl (by simp) rfl fun hactive => (Bool.and_eq_true_iff.1 hactive).1
  | close =>
      rcases stack with _ | ⟨group, outer⟩
      · exact .nothing rfl
      · exact .closes rfl

/-! ## Groups and the groups around them -/

/-- Every group knows whether all groups around it are active, and is active only if they are. -/
def Linked : List ConditionalGroup → Prop
  | [] => True
  | group :: outer =>
    (group.outerActive = true ↔ ∀ g ∈ outer, g.active = true) ∧
      (group.active = true → group.outerActive = true) ∧ Linked outer

/-- What holds of the innermost group holds of every group. -/
theorem Linked.of_append {inner : List ConditionalGroup} {group : ConditionalGroup}
    {outer : List ConditionalGroup} (h : Linked (inner ++ group :: outer)) :
    (group.outerActive = true ↔ ∀ g ∈ outer, g.active = true) ∧
      (group.active = true → ∀ g ∈ outer, g.active = true) := by
  induction inner with
  | nil => exact ⟨h.1, fun hactive => h.1.1 (h.2.1 hactive)⟩
  | cons first inner ih => exact ih h.2.2

/-- The innermost group speaks for all of them. -/
theorem Linked.isSkipping_eq_false_iff {groups : ConditionalGroups} (h : Linked groups.stack) :
    groups.isSkipping = false ↔ ∀ g ∈ groups.stack, g.active = true := by
  obtain ⟨stack⟩ := groups
  rcases stack with _ | ⟨group, outer⟩
  · exact iff_of_true rfl (List.forall_mem_nil _)
  · change (!group.active) = false ↔ _
    rw [Bool.not_eq_false', List.forall_mem_cons]
    exact ⟨fun hactive => ⟨hactive, h.1.1 (h.2.1 hactive)⟩, And.left⟩

/-- **One action** keeps the links. -/
theorem Linked.apply {groups : ConditionalGroups} (h : Linked groups.stack) (action : Action) :
    Linked (groups.apply action).stack := by
  have heffect := groups.effect_apply action
  generalize (groups.apply action).stack = stack at heffect
  cases heffect with
  | opens value houter hactive => exact ⟨houter.trans h.isSkipping_eq_false_iff, hactive, h⟩
  | rebranches hstack _ houter hactive =>
      rw [hstack] at h
      exact ⟨houter ▸ h.1, hactive, h.2.2⟩
  | closes hstack =>
      rw [hstack] at h
      exact h.2.2
  | nothing hstack => trivial

/-- **Every run** keeps the links. -/
theorem Linked.run {groups : ConditionalGroups} (h : Linked groups.stack) (actions : List Action) :
    Linked (groups.run actions).stack := by
  induction actions generalizing groups with
  | nil => exact h
  | cons action actions ih => exact ih (h.apply action)

/-! ## Inside a group -/

section inside

variable {groups : ConditionalGroups} {group : ConditionalGroup} {outer : List ConditionalGroup}

/-- An action that does not meet a group as the innermost one leaves it alone, and so does an
action that opens another group inside it. -/
theorem suffix_apply (h : group :: outer <:+ groups.stack) {action : Action}
    (hinside : groups.stack = group :: outer → ∃ value, action = .openIf value) :
    group :: outer <:+ (groups.apply action).stack := by
  -- the group lies below the innermost one unless another group opens
  have hbelow : ∀ {first rest}, groups.stack = first :: rest →
      (∀ value, action ≠ .openIf value) → group :: outer <:+ rest := by
    intro first rest hstack haction
    rw [hstack, List.suffix_cons_iff] at h
    refine h.resolve_left fun heq => ?_
    obtain ⟨value, hvalue⟩ := hinside (hstack.trans heq.symm)
    exact haction value hvalue
  have heffect := groups.effect_apply action
  generalize (groups.apply action).stack = stack at heffect
  cases heffect with
  | opens value => exact h.trans (List.suffix_cons _ _)
  | rebranches hstack haction => exact (hbelow hstack haction).trans (List.suffix_cons _ _)
  | closes hstack => exact hbelow hstack (by simp)
  | nothing hstack =>
      rw [hstack] at h
      exact h

/-- **Until an action meets a group as the innermost one** and opens no other inside it, the group
and all around it stay as they are. -/
theorem suffix_run (h : group :: outer <:+ groups.stack) {actions : List Action}
    (hinside : ∀ before action behind, actions = before ++ action :: behind →
      (groups.run before).stack = group :: outer → ∃ value, action = .openIf value) :
    group :: outer <:+ (groups.run actions).stack := by
  induction actions generalizing groups with
  | nil => exact h
  | cons action actions ih =>
      refine ih (suffix_apply h (hinside [] action actions rfl)) ?_
      rintro before next behind rfl hstack
      exact hinside (action :: before) next behind rfl hstack

/-- While a group that is not active is open, text is skipped. -/
theorem Linked.isSkipping_of_suffix (h : Linked groups.stack)
    (hopen : group :: outer <:+ groups.stack) (hactive : group.active = false) :
    groups.isSkipping = true := by
  rw [← Bool.not_eq_false, h.isSkipping_eq_false_iff]
  intro hall
  rw [hall group (hopen.subset List.mem_cons_self)] at hactive
  cases hactive

end inside

/-! ## Complete groups -/

/-- What may stand between the `#if` and the `#endif` of a group: other branches, in any order, and
complete groups. -/
inductive Within : List Action → Prop
  | done : Within []
  | elseIf (value : Bool) {rest : List Action} (h : Within rest) : Within (.elseIf value :: rest)
  | otherwise {rest : List Action} (h : Within rest) : Within (.otherwise :: rest)
  | group (value : Bool) {inner rest : List Action} (hinner : Within inner) (h : Within rest) :
      Within (.openIf value :: inner ++ .close :: rest)

/-- Complete groups one after the other. -/
inductive Complete : List Action → Prop
  | done : Complete []
  | group (value : Bool) {inner rest : List Action} (hinner : Within inner) (h : Complete rest) :
      Complete (.openIf value :: inner ++ .close :: rest)

/-- A group in which at most the group itself changes leaves no trace. -/
theorem run_group {inner : List Action}
    (hinner : ∀ group outer, ∃ changed,
      run { stack := group :: outer } inner = { stack := changed :: outer })
    (groups : ConditionalGroups) (value : Bool) (rest : List Action) :
    groups.run (.openIf value :: inner ++ .close :: rest) = groups.run rest := by
  obtain ⟨opened, hopened⟩ : ∃ opened, groups.openIf value = { stack := opened :: groups.stack } :=
    ⟨_, rfl⟩
  obtain ⟨changed, hchanged⟩ := hinner opened groups.stack
  rw [List.cons_append, run_cons, apply, hopened, run_append, hchanged]
  rfl

/-- Within a group at most this group changes. -/
theorem Within.run_eq {actions : List Action} (h : Within actions) (group : ConditionalGroup)
    (outer : List ConditionalGroup) :
    ∃ changed, run { stack := group :: outer } actions = { stack := changed :: outer } := by
  induction h generalizing group outer with
  | done => exact ⟨group, rfl⟩
  | elseIf value h ih => exact ih _ outer
  | otherwise h ih => exact ih _ outer
  | group value hinner h ihinner ih =>
      rw [run_group ihinner]
      exact ih group outer

/-- **Complete groups leave no trace.** -/
theorem Complete.run_eq {actions : List Action} (h : Complete actions)
    (groups : ConditionalGroups) : groups.run actions = groups := by
  induction h with
  | done => rfl
  | group value hinner h ih => rw [run_group hinner.run_eq, ih]

/-! ## What is read -/

/-- **Text is read where every open group is active.**  After any actions, matched or not:

* every group knows whether all groups around it are active, and is active only if they are;
* text is read exactly if all open groups are active;
* in a branch that is not read text stays skipped, whatever is opened, continued and closed inside
  it, until an action other than an `#if` meets its group as the innermost one;
* complete groups one after the other restore what was open. -/
theorem run_reads (actions : List Action) :
    let groups := run {} actions
    (∀ inner group outer, groups.stack = inner ++ group :: outer →
      (group.outerActive = true ↔ ∀ g ∈ outer, g.active = true) ∧
        (group.active = true → ∀ g ∈ outer, g.active = true)) ∧
      (groups.isSkipping = false ↔ ∀ g ∈ groups.stack, g.active = true) ∧
      (∀ inner group outer later, groups.stack = inner ++ group :: outer → group.active = false →
        (∀ before action behind, later = before ++ action :: behind →
          (groups.run before).stack = group :: outer → ∃ value, action = .openIf value) →
        (groups.run later).isSkipping = true) ∧
      ∀ complete, Complete complete → groups.run complete = groups := by
  intro groups
  have hnone : Linked ({} : ConditionalGroups).stack := trivial
  have hlinked : Linked groups.stack := hnone.run actions
  refine ⟨?_, hlinked.isSkipping_eq_false_iff, ?_, ?_⟩
  · intro inner group outer hstack
    rw [hstack] at hlinked
    exact hlinked.of_append
  · intro inner group outer later hstack hactive hinside
    have hopen : group :: outer <:+ groups.stack := ⟨inner, hstack.symm⟩
    exact (hlinked.run later).isSkipping_of_suffix (suffix_run hopen hinside) hactive
  · intro complete hcomplete
    exact hcomplete.run_eq groups

-- `#elif` behind `#else` is read if its condition holds, but not inside a branch that is skipped
example : (run {} [.openIf true, .otherwise, .elseIf true]).isSkipping = false := by decide

example : (run {} [.openIf false, .openIf true, .otherwise, .elseIf true]).isSkipping = true := by
  decide

end DeclAtlas.ConditionalGroups
