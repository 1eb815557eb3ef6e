import Mathlib
import DeclAtlas.Proofs.Header.Literal
import DeclAtlas.Proofs.Reader.Relation

/-!
# String literals in sources

The scanner passes over string literals, but the header that it hands on holds them as they stand.

* **Theorem** (`Tree.read_literal`): in the value of a field, the content of a string literal shows
  in default values only, as long as it holds no comment delimiter and no arrow.
* `Tree.read_literal_arrow`: a literal with an arrow in it makes the field a property.

The two readers differ in the literal until the header ends, and only in default values from there
on (`Builder.carries_literal`).
-/

namespace DeclAtlas

/-- The reading with all default values taken away. -/
def Reading.withoutDefaults (reading : Reading) : Reading :=
  { reading with tree := reading.tree.withoutDefaults }

/-! ## Builders up to default values -/

/-- The trees are equal up to default values. -/
def Tree.SameButDefaults (tree tree' : Tree) : Prop :=
  tree.withoutDefaults = tree'.withoutDefaults

namespace Builder

/-- The builder with all default values taken away. -/
def withoutDefaults (b : Builder) : Builder :=
  { b with tree := b.tree.withoutDefaults }

/-- Default values do not matter for how headers are read. -/
theorem context_withoutDefaults (b : Builder) (boundary : Boundary) :
    b.withoutDefaults.context boundary = b.context boundary := by
  have hkind : b.withoutDefaults.tree.kind? = b.tree.kind? :=
    funext b.tree.kind?_withoutDefaults
  have hlast : b.withoutDefaults.tree.lastChild? b.current = b.tree.lastChild? b.current :=
    b.tree.lastChild?_withoutDefaults b.current
  have hcurrent : b.withoutDefaults.current = b.current := rfl
  rw [context, context, hcurrent, hkind, hlast]

/-- A header may be taken before or after default values are taken away. -/
theorem take_withoutDefaults (b : Builder) (boundary : Boundary) (header : Header) :
    b.withoutDefaults.take boundary header.withoutDefault =
      ((b.take boundary header).1.withoutDefaults, (b.take boundary header).2) := by
  cases header with
  | importing => rfl
  | initializer => rfl
  | nothing => rfl
  | declaration element opensBody =>
      have hdeclare : b.withoutDefaults.tree.declare b.withoutDefaults.current
          (element.withoutDefault.type.isAbsent && boundary != .opening)
          { element.withoutDefault with summary := b.withoutDefaults.summary } = _ :=
        b.tree.declare_withoutDefaults b.current { element with summary := b.summary }
          (element.type.isAbsent && boundary != .opening)
      rw [Header.withoutDefault, take, hdeclare]
      rfl

/-- Default values do not matter for scopes. -/
theorem moveScope_withoutDefaults (b : Builder) (boundary : Boundary) (node : NodeId) :
    b.withoutDefaults.moveScope boundary node = (b.moveScope boundary node).withoutDefaults := by
  cases boundary <;> rfl

/-- Builders that are equal up to default values and whose headers say the same, up to the default
value, go on equal up to default values. -/
theorem readHeader_withoutDefaults_eq {b b' : Builder}
    (h : { b with pending := [] }.withoutDefaults = { b' with pending := [] }.withoutDefaults)
    (boundary : Boundary)
    (hread : (Header.read (b.context boundary) b.pending).withoutDefault =
      (Header.read (b.context boundary) b'.pending).withoutDefault) :
    (b.readHeader boundary).withoutDefaults = (b'.readHeader boundary).withoutDefaults := by
  have hcontext : b.context boundary = b'.context boundary := by
    have hcongr := congrArg (Builder.context · boundary) h
    simp only [context_withoutDefaults] at hcongr
    exact hcongr
  have hstep : ∀ b : Builder, (b.readHeader boundary).withoutDefaults =
      let taken := { b with pending := [] }.withoutDefaults.take boundary
        (Header.read (b.context boundary) b.pending).withoutDefault
      taken.1.moveScope boundary taken.2 := by
    intro b
    rw [take_withoutDefaults]
    exact (moveScope_withoutDefaults _ _ _).symm
  rw [hstep, hstep, h, hread, hcontext]

/-! ## Headers that differ in a literal -/

/-- The headers are equal or differ in the content of the literal behind a given text. -/
def LiteralApart (header content content' : Text) (t t' : Text) : Prop :=
  t = t' ∨ ∃ rest, t = header ++ Header.literal content ++ rest ∧
    t' = header ++ Header.literal content' ++ rest

section literal

variable {header content content' : Text} (hheader : Header.ReachesValue header)
  (hcontent : Header.Unmistakable content) (hcontent' : Header.Unmistakable content')

/-- Builders that are equal but for default values are alike. -/
theorem alike_of_withoutDefaults_eq {b b' : Builder} (h : b.withoutDefaults = b'.withoutDefaults) :
    Alike Tree.SameButDefaults (LiteralApart header content content') b b' := by
  obtain ⟨htree, hbase, hpending, hsummary, hbrackets, hgeneric, hnesting, hbody, hscopes⟩ :=
    Builder.mk.inj h
  exact ⟨htree, Or.inl hpending, hbase, hsummary, hbrackets, hgeneric, hnesting, hbody, hscopes⟩

include hheader hcontent hcontent'

/-- Headers that are apart in the literal say the same but for the default value. -/
theorem LiteralApart.read_eq {t t' : Text} (h : LiteralApart header content content' t t')
    (context : HeaderContext) :
    (Header.read context t).withoutDefault = (Header.read context t').withoutDefault := by
  rcases h with rfl | ⟨rest, rfl, rfl⟩
  · rfl
  · exact Header.read_withoutDefault_eq hcontent hcontent' context hheader rest

/-- The content of the literal changes nothing that a builder does but default values. -/
theorem carries_literal :
    Carries (Alike Tree.SameButDefaults (LiteralApart header content content'))
      (Alike Tree.SameButDefaults (LiteralApart header content content')) := by
  apply carries_alike
  · rintro t t' c (rfl | ⟨rest, rfl, rfl⟩)
    · exact Or.inl rfl
    · exact Or.inr ⟨rest ++ [c], List.append_assoc _ _ _, List.append_assoc _ _ _⟩
  · exact Or.inl rfl
  · intro b b' boundary h
    have hemptied : { b with pending := [] }.withoutDefaults =
        { b' with pending := [] }.withoutDefaults := by
      have htree : b.tree.withoutDefaults = b'.tree.withoutDefaults := h.tree
      unfold withoutDefaults
      rw [htree, h.base, h.summary, h.brackets, h.maybeGeneric, h.nesting, h.body, h.scopes]
    apply alike_of_withoutDefaults_eq
    exact readHeader_withoutDefaults_eq hemptied boundary
      (h.pending.read_eq hheader hcontent hcontent' (b.context boundary))

end literal

end Builder

/-! ## Reading a literal -/

namespace Reader

/-- The reader with another header, in another mode. -/
def gathering (r : Reader) (pending : Text) (mode : Mode) : Reader :=
  { r with pending, mode }

/-- A quote in structural text begins a string literal. -/
theorem step_quote {r : Reader} (hmode : r.mode.isStructural = true) :
    ∃ verbatim, r.step '"' = (r.keep '"').gathering (r.header ++ ['"']) (.string verbatim) := by
  rw [step_of_isText (Mode.isText_of_isStructural hmode)]
  unfold header advance
  cases h : r.mode
  case plain | slash => exact ⟨r.trail.opensVerbatim, rfl⟩
  case verbatimQuote => exact ⟨true, rfl⟩
  all_goals
    rw [h] at hmode
    cases hmode

/-- Inside a string literal characters are gathered. -/
theorem scan_inString (r : Reader) (pending : Text) (verbatim : Bool) {t : Text} (hquote : '"' ∉ t)
    (hbackslash : '\\' ∉ t) :
    (r.gathering pending (.string verbatim)).scan t =
      (r.pass t).gathering (pending ++ t) (.string verbatim) := by
  induction t generalizing r pending with
  | nil =>
      rw [List.append_nil]
      rfl
  | cons c t ih =>
      obtain ⟨hc, hquote⟩ := List.ne_and_not_mem_of_not_mem_cons hquote
      obtain ⟨hc', hbackslash⟩ := List.ne_and_not_mem_of_not_mem_cons hbackslash
      have hplain : ¬ (c = '\\' ∧ verbatim = false) := fun h => hc' h.1.symm
      have hstep : (r.gathering pending (.string verbatim)).step c =
          (r.keep c).gathering (pending ++ [c]) (.string verbatim) := by
        rw [step_of_isText rfl]
        simp only [gathering, advance, Mode.next, if_neg hc.symm, if_neg hplain]
        rfl
      rw [scan_cons, hstep, ih _ _ hquote hbackslash, List.append_assoc, List.singleton_append,
        pass_cons]

/-- A string literal is added to the header, and the mode behind it does not depend on its
content. -/
theorem scan_literal {r : Reader} (hmode : r.mode.isStructural = true) :
    ∃ mode, ∀ {content : Text}, Header.Unmistakable content →
      r.scan (Header.literal content) =
        (r.pass (Header.literal content)).gathering (r.header ++ Header.literal content) mode := by
  obtain ⟨verbatim, hopen⟩ := step_quote hmode
  refine ⟨Mode.next .other false '"' (.string verbatim), ?_⟩
  intro content hcontent
  have hclose : ∀ (q : Reader) (pending : Text),
      (q.gathering pending (.string verbatim)).step '"' =
        (q.keep '"').gathering (pending ++ ['"']) (Mode.next .other false '"' (.string verbatim)) :=
    fun _ _ => rfl
  have htext : r.header ++ ['"'] ++ content ++ ['"'] = r.header ++ '"' :: (content ++ ['"']) := by
    simp
  rw [Header.literal, scan_cons, hopen, scan_append,
    scan_inString _ _ _ hcontent.quote hcontent.backslash, scan_cons, scan_nil, hclose, pass_cons,
    pass_append, htext]
  rfl

/-- Behind a literal readers differ in the literal only. -/
theorem related_literal {r : Reader} (hmode : r.mode.isStructural = true) {content content' : Text}
    (hcontent : Header.Unmistakable content) (hcontent' : Header.Unmistakable content') :
    Related (· = ·)
      (Builder.Alike Tree.SameButDefaults (Builder.LiteralApart r.header content content'))
      (r.scan (Header.literal content)) (r.scan (Header.literal content')) := by
  obtain ⟨mode, hscan⟩ := scan_literal hmode
  have hpass : ∀ content : Text, (r.pass (Header.literal content)).trail = .other ∧
      (r.pass (Header.literal content)).lineBlank = false := by
    intro content
    simp [pass, Header.literal, Trail.next, blankBehind, Text.isBlank]
  have htrail := (hpass content).1.trans (hpass content').1.symm
  have hblank := (hpass content).2.trans (hpass content').2.symm
  rw [hscan hcontent, hscan hcontent']
  refine ⟨⟨rfl, htrail, hblank⟩, ?_, rfl⟩
  refine ⟨rfl, Or.inr ⟨[], ?_, ?_⟩, rfl, rfl, rfl, rfl, rfl, rfl, rfl⟩
  · exact (List.append_nil _).symm
  · exact (List.append_nil _).symm

end Reader

/-! ## Sources -/

namespace Tree

variable (tree : Tree) (base : NodeId) (symbols : Symbols)

/-- **The content of literals shows in default values only.**  In structural text, where the header
has come to the value of a field, two string literals with contents that are not taken for syntax
give readings that agree up to default values, whatever follows. -/
theorem read_literal {front : Text}
    (hmode : ((Scanner.start tree base symbols).scan front).mode.isStructural = true)
    (hheader : Header.ReachesValue ((Scanner.start tree base symbols).scan front).header)
    {content content' : Text} (hcontent : Header.Unmistakable content)
    (hcontent' : Header.Unmistakable content') (rest : Text) :
    (tree.read base symbols (front ++ Header.literal content ++ rest)).withoutDefaults.Agrees
      (tree.read base symbols (front ++ Header.literal content' ++ rest)).withoutDefaults := by
  have hreads := (Scanner.readsAs_start tree base symbols).scan front
  rw [← hreads.header_eq hmode] at hheader
  have hliteral := Reader.related_literal (hreads.isStructural.trans hmode) hcontent hcontent'
  have hscanned := hliteral.scan Reader.compatible_eq
    (Builder.carries_literal hheader hcontent hcontent') rest
  have hend := hscanned.endOfSource Reader.compatible_eq
  rw [← Reader.scan_append, ← Reader.scan_append, ← Reader.scan_append, ← Reader.scan_append,
    ← List.append_assoc, ← List.append_assoc] at hend
  refine ⟨?_, ?_, ?_⟩
  · unfold Reading.withoutDefaults
    rw [tree_read, tree_read]
    exact hend.builder.tree
  · unfold Reading.withoutDefaults
    rw [symbols_read, symbols_read, hend.conditions]
    exact Symbols.sameMembers_refl _
  · unfold Reading.withoutDefaults
    rw [faultKind_read, faultKind_read]
    exact hend.faultKind? hend.builder.brackets hend.builder.scopes

/-- A source that stops in the value of a field. -/
def insideField : Text :=
  "class A \x7b [B(c = 1)] string[] s = "

/-- The value of the field is structural text. -/
theorem isStructural_insideField :
    ((Scanner.start (.ofLabel "Test") root {}).scan insideField).mode.isStructural = true := by
  decide +kernel

/-- The header has come to the value of the field. -/
theorem reachesValue_insideField :
    Header.ReachesValue ((Scanner.start (.ofLabel "Test") root {}).scan insideField).header := by
  have hheader : ((Scanner.start (.ofLabel "Test") root {}).scan insideField).header =
      " ".toList ++ '[' :: ("B(c = 1)".toList ++ ']' :: " string[] s ".toList) ++
        '=' :: " ".toList := by
    decide +kernel
  have hdeclarator : Header.FieldFront " string[] s ".toList :=
    .declarator (by decide) (by decide) (by decide)
  have hslash : '/' ∉ " ".toList ++ '[' :: ("B(c = 1)".toList ++ ']' :: " string[] s ".toList) := by
    decide
  have hgroup : Header.FieldFront
      (" ".toList ++ '[' :: ("B(c = 1)".toList ++ ']' :: " string[] s ".toList)) :=
    .group (by simp [Text.isBlank]) (by decide) hdeclarator
  refine ⟨_, _, hheader, hgroup, ?_⟩
  intro hopens
  exact hslash (hopens.subset List.mem_cons_self)

/-- A literal that looks like declarations changes nothing but the default value of the field. -/
theorem read_literal_insideField :
    Header.ReachesValue ((Scanner.start (.ofLabel "Test") root {}).scan insideField).header ∧
      Header.Unmistakable "\x7d; int f(x" ∧
      ((ofLabel "Test").read root {}
          (insideField ++ Header.literal "\x7d; int f(x" ++ " + 1, t; \x7d")).withoutDefaults.Agrees
        ((ofLabel "Test").read root {}
          (insideField ++ Header.literal "" ++ " + 1, t; \x7d")).withoutDefaults := by
  have hbusy : Header.Unmistakable "\x7d; int f(x" :=
    ⟨by decide, by decide, by decide, by decide, by decide⟩
  have hempty : Header.Unmistakable "" :=
    ⟨by decide, by decide, by decide, by decide, by decide⟩
  refine ⟨reachesValue_insideField, hbusy, ?_⟩
  exact read_literal (.ofLabel "Test") root {} isStructural_insideField reachesValue_insideField
    hbusy hempty _

/-- **An arrow in a literal is taken for an arrow**: a field becomes a property. -/
theorem read_literal_arrow :
    ((Scanner.start (.ofLabel "Test") root {}).scan insideField).mode.isStructural = true ∧
      ((Scanner.start (.ofLabel "Test") root {}).scan insideField).brackets = 0 ∧
      ((Scanner.start (.ofLabel "Test") root {}).scan insideField).body = none ∧
      Header.ReachesValue ((Scanner.start (.ofLabel "Test") root {}).scan insideField).header ∧
      ((ofLabel "Test").read root {}
        (insideField ++ Header.literal "x" ++ "; \x7d")).tree.kind? 2 = some .field ∧
      ((ofLabel "Test").read root {}
        (insideField ++ Header.literal "=>" ++ "; \x7d")).tree.kind? 2 = some .property := by
  refine ⟨isStructural_insideField, ?_, ?_, reachesValue_insideField, ?_, ?_⟩
  all_goals decide +kernel

end Tree

end DeclAtlas
