import Mathlib
import DeclAtlas.Proofs.Condition.Program
import DeclAtlas.Proofs.Reader.Line
import DeclAtlas.Proofs.Reader.Refinement

/-!
# Reading a conditional program is reading its selection

Conditional compilation is carried out while a source is read, in the same pass.  The outcome is
that of two passes, the first of which selects the text lines:

* **Theorem** (`Tree.read_render`): a rendered program gives the tree and the kind of fault that
  its selection gives, and leaves the symbols defined that the selection leaves.

The proof follows the program with two readers.  One reads the rendered program; the other, `r`,
has read what is selected so far.  At the start of each line the first is `r.paused conditions`,
where the conditions hold the symbols defined so far and the groups that are open: a directive line
or a line left out moves only the conditions, and a line that is read moves both readers alike.
-/

namespace DeclAtlas.Conditional

/-! ## Parts that are not read -/

mutual

/-- Nothing is selected where nothing is read. -/
theorem Program.select_inactive (symbols : Symbols) :
    (p : Program) → p.select false symbols = { text := [], symbols }
  | .done => rfl
  | .text line rest => by
      rw [Program.select, rest.select_inactive symbols]
      rfl
  | .define name rest => by
      rw [Program.select]
      exact rest.select_inactive symbols
  | .undefine name rest => by
      rw [Program.select]
      exact rest.select_inactive symbols
  | .other directive rest => by
      rw [Program.select]
      exact rest.select_inactive symbols
  | .group condition branch others rest => by
      rw [Program.select]
      simp only [Bool.false_and, branch.select_inactive, others.select_inactive,
        rest.select_inactive]
      rfl

/-- Nothing is selected from the further branches of a group that is left out. -/
theorem Branches.select_inactive (taken : Bool) (symbols : Symbols) :
    (others : Branches) → others.select false taken symbols = { text := [], symbols }
  | .endIf => rfl
  | .otherwise branch => by
      rw [Branches.select, Bool.false_and, branch.select_inactive symbols]
  | .elseIf condition branch others => by
      rw [Branches.select]
      simp only [Bool.false_and, branch.select_inactive, others.select_inactive]
      rfl

end

/-- Which conditions have held matters only in a group that is read. -/
theorem Branches.select_and (others : Branches) (active taken : Bool) (symbols : Symbols) :
    others.select active (active && taken) symbols = others.select active taken symbols := by
  cases active with
  | true => rfl
  | false => rw [others.select_inactive, others.select_inactive]

/-! ## Keeping in step -/

/-- Over a source the reader of a program keeps in step with the reader of a selection: from the
given conditions to the same groups, with the symbols that the selection leaves. -/
def InStep (r : Reader) (conditions : Conditions) (source : Text) (selection : Selection)
    (groups : ConditionalGroups) : Prop :=
  (r.scan selection.text).AtLine ∧
    (r.paused conditions).scan source =
      (r.scan selection.text).paused { symbols := selection.symbols, groups }

section parts

variable {r : Reader} {conditions : Conditions} {groups : ConditionalGroups}

/-- A reader is in step with the empty text. -/
theorem inStep_nil (h : r.AtLine) :
    InStep r conditions [] { text := [], symbols := conditions.symbols } conditions.groups :=
  ⟨h, rfl⟩

/-- Parts that follow one another. -/
theorem InStep.append {source rest : Text} {selection more : Selection}
    {groups' : ConditionalGroups} (h : InStep r conditions source selection groups)
    (h' : InStep (r.scan selection.text) { symbols := selection.symbols, groups } rest more
      groups') :
    InStep r conditions (source ++ rest) (more.after selection.text) groups' := by
  refine ⟨?_, ?_⟩
  · rw [Selection.after, Reader.scan_append]
    exact h'.1
  · rw [Reader.scan_append, h.2, h'.2, Selection.after, Reader.scan_append]

/-- A directive line in front of a part. -/
theorem InStep.directive (hat : r.AtLine) {line rest : Text} (hbreak : '\n' ∉ line)
    {directive : Directive} (hline : Directive.ofLine ('#' :: line) = directive)
    {selection : Selection}
    (h : InStep r (conditions.apply directive) rest selection groups) :
    InStep r conditions ('#' :: line ++ '\n' :: rest) selection groups := by
  have hsource : '#' :: line ++ '\n' :: rest = ('#' :: line ++ ['\n']) ++ rest := by simp
  refine ⟨h.1, ?_⟩
  rw [hsource, Reader.scan_append, Reader.scan_directiveLine hat conditions hbreak, hline]
  exact h.2

/-- A text line is read if the text at its place is read. -/
theorem TextLine.inStep (line : TextLine) (h : r.AtLine) :
    InStep r conditions (line.text ++ ['\n'])
      { text := if !conditions.isSkipping then line.text ++ ['\n'] else []
        symbols := conditions.symbols } conditions.groups := by
  have hstart := Reader.atLine_start (Tree.ofLabel []) Tree.root {}
  have hclosed : ((Reader.start (Tree.ofLabel []) Tree.root {}).scan
      (line.text ++ ['\n'])).mode = .plain := by
    have hview := ((Scanner.readsAs_start (Tree.ofLabel []) Tree.root {}).scan
      (line.text ++ ['\n'])).view_eq
    rw [← hview]
    change Mode.view _ _ = _
    rw [line.closed]
    rfl
  have hsign : Reader.Unsigned true line.text := fun _ => line.unsigned
  cases hskipping : conditions.isSkipping with
  | true => exact ⟨h, Reader.scan_skippedLine h hskipping line.noBreak hsign⟩
  | false =>
      obtain ⟨hat, hread⟩ := Reader.scan_textLine h hstart line.noBreak hsign hclosed
      exact ⟨hat, hread hskipping⟩

/-- A directive with an argument is one line. -/
theorem Argument.noBreak_line (argument : Argument) {name : Text} (hname : '\n' ∉ name) :
    '\n' ∉ name ++ ' ' :: argument.text := by
  rw [List.mem_append, List.mem_cons, not_or, not_or]
  exact ⟨hname, by decide, argument.noBreak⟩

/-- The end of a group. -/
theorem inStep_endIf (h : r.AtLine) (symbols : Symbols) (group : ConditionalGroup)
    (outer : List ConditionalGroup) :
    InStep r { symbols, groups := { stack := group :: outer } } ('#' :: "endif".toList ++ ['\n'])
      { text := [], symbols } { stack := outer } := by
  have hline : Directive.ofLine ('#' :: "endif".toList) = .endIf := by decide
  exact InStep.directive h (by decide) hline (inStep_nil h)

end parts

/-! ## Programs -/

/-- A symbol is defined unless the directive is left out. -/
theorem apply_define (conditions : Conditions) (name : Text) :
    conditions.apply (.define name) =
      { conditions with
        symbols := if !conditions.isSkipping then conditions.symbols.define name
          else conditions.symbols } := by
  unfold Conditions.apply
  cases conditions.isSkipping <;> rfl

/-- A symbol is removed unless the directive is left out. -/
theorem apply_undefine (conditions : Conditions) (name : Text) :
    conditions.apply (.undefine name) =
      { conditions with
        symbols := if !conditions.isSkipping then conditions.symbols.undefine name
          else conditions.symbols } := by
  unfold Conditions.apply
  cases conditions.isSkipping <;> rfl

/-- A group that has just been opened. -/
def openedGroup (active holds : Bool) : ConditionalGroup :=
  { outerActive := active, taken := active && holds, active := active && holds }

/-- A group is opened in any case; it is active if nothing around it is left out and its condition
holds. -/
theorem apply_openIf (conditions : Conditions) (condition : Text) :
    conditions.apply (.openIf condition) =
      { symbols := conditions.symbols
        groups := { stack :=
          openedGroup (!conditions.isSkipping) (Condition.holds conditions.symbols condition) ::
            conditions.groups.stack } } := by
  unfold Conditions.apply ConditionalGroups.openIf openedGroup
  rw [Conditions.isSkipping]
  cases conditions.groups.isSkipping <;> rfl

/-- The innermost group tells whether text is left out. -/
theorem not_isSkipping_cons (symbols : Symbols) (group : ConditionalGroup)
    (outer : List ConditionalGroup) :
    (!Conditions.isSkipping { symbols, groups := { stack := group :: outer } }) = group.active :=
  Bool.not_not _

mutual

/-- A reader keeps in step with a program. -/
theorem Program.inStep {r : Reader} (h : r.AtLine) (conditions : Conditions) :
    (p : Program) → InStep r conditions p.render
      (p.select (!conditions.isSkipping) conditions.symbols) conditions.groups
  | .done => inStep_nil h
  | .text line rest => by
      have hline : InStep r conditions _ _ _ := line.inStep h
      have hsource : (Program.text line rest).render = line.text ++ ['\n'] ++ rest.render := by
        rw [Program.render]
        simp
      rw [hsource]
      exact hline.append (rest.inStep hline.1 conditions)
  | .define name rest => by
      have hline := Directive.ofLine_define name.trimmed name.noComment
      refine InStep.directive h (name.noBreak_line (by decide)) hline ?_
      rw [apply_define]
      exact rest.inStep h _
  | .undefine name rest => by
      have hline := Directive.ofLine_undefine name.trimmed name.noComment
      refine InStep.directive h (name.noBreak_line (by decide)) hline ?_
      rw [apply_undefine]
      exact rest.inStep h _
  | .other directive rest => by
      have hline := Directive.ofLine_other directive.isName directive.notKeyword directive.spaced
      exact InStep.directive h directive.noBreak hline (rest.inStep h conditions)
  | .group condition branch others rest => by
      have hline := Directive.ofLine_openIf condition.trimmed condition.noComment
      refine InStep.directive h (condition.noBreak_line (by decide)) hline ?_
      rw [apply_openIf]
      let active := !conditions.isSkipping
      let holds := Condition.holds conditions.symbols condition.text
      let group := openedGroup active holds
      have hbranch := branch.inStep h
        { symbols := conditions.symbols
          groups := { stack := group :: conditions.groups.stack } }
      rw [not_isSkipping_cons] at hbranch
      have hothers := others.inStep hbranch.1
        (branch.select group.active conditions.symbols).symbols group conditions.groups.stack
      rw [show group.taken = (group.outerActive && holds) from rfl, others.select_and] at hothers
      exact (hbranch.append hothers).append (rest.inStep (hbranch.append hothers).1 _)

/-- A reader keeps in step with the branches of a group, up to the end of the group. -/
theorem Branches.inStep {r : Reader} (h : r.AtLine) (symbols : Symbols) (group : ConditionalGroup)
    (outer : List ConditionalGroup) :
    (others : Branches) →
      InStep r { symbols, groups := { stack := group :: outer } } others.render
        (others.select group.outerActive group.taken symbols) { stack := outer }
  | .endIf => inStep_endIf h symbols group outer
  | .otherwise branch => by
      have hline : Directive.ofLine ('#' :: "else".toList) = .otherwise := by decide
      refine InStep.directive h (by decide) hline ?_
      have hbranch := branch.inStep h { symbols, groups := { stack :=
        { group with active := group.outerActive && !group.taken, taken := true } :: outer } }
      rw [not_isSkipping_cons] at hbranch
      have hend := hbranch.append (inStep_endIf hbranch.1 _ _ outer)
      rw [Selection.after, List.append_nil] at hend
      exact hend
  | .elseIf condition branch others => by
      have hline := Directive.ofLine_elseIf condition.trimmed condition.noComment
      refine InStep.directive h (condition.noBreak_line (by decide)) hline ?_
      let holds := Condition.holds symbols condition.text
      have hbranch := branch.inStep h { symbols, groups := { stack :=
        { group with active := group.outerActive && holds, taken := group.taken || holds } ::
          outer } }
      rw [not_isSkipping_cons] at hbranch
      exact hbranch.append (others.inStep hbranch.1 _ _ outer)

end

end DeclAtlas.Conditional

namespace DeclAtlas.Tree

open Conditional in
/-- **Reading is selecting, then reading**: for every program, a rendered program gives the tree and
the kind of fault that its selection gives, and leaves the symbols that the selection leaves. -/
theorem read_render (tree : Tree) (base : NodeId) (symbols : Symbols) (p : Program) :
    (tree.read base symbols p.render).tree =
        (tree.read base symbols (p.select true symbols).text).tree ∧
      (tree.read base symbols p.render).fault.map Fault.kind =
        (tree.read base symbols (p.select true symbols).text).fault.map Fault.kind ∧
      (tree.read base symbols p.render).symbols = (p.select true symbols).symbols := by
  obtain ⟨hat, hscan⟩ : InStep (Reader.start tree base symbols) { symbols } p.render
      (p.select true symbols) {} :=
    p.inStep (Reader.atLine_start tree base symbols) { symbols }
  have hread : (Reader.start tree base symbols).scan p.render =
      ((Reader.start tree base symbols).scan (p.select true symbols).text).paused
        { symbols := (p.select true symbols).symbols } := hscan
  generalize hselected : (Reader.start tree base symbols).scan (p.select true symbols).text = r
    at hat hread
  have hend : r.endOfSource = r := by
    rw [Reader.endOfSource, hat.mode]
  rw [tree_read, tree_read, faultKind_read, faultKind_read, symbols_read, hread, hselected, hend]
  refine ⟨rfl, ?_, rfl⟩
  change (r.paused _).faultKind? = _
  unfold Reader.faultKind?
  rw [hat.mode]
  rfl

end DeclAtlas.Tree
