import Mathlib
import DeclAtlas.Proofs.Condition.Members
import DeclAtlas.Proofs.Reader.Line
import DeclAtlas.Proofs.Reader.Refinement

/-!
# Readers side by side

Two sources that differ in one place are compared by reading them side by side.

* `Reading.Agrees`: two readings give the same tree, the same set of symbols and the same kind of
  fault.  The places of their faults may differ.
* `Builder.Carries`: what has to be known about a relation between builders so that taking in one
  character carries it on.  A builder is changed by a few operations only, whatever the mode.
* `Builder.Alike`: the relations that are used most, which concern the tree and the header only.
  They are carried on if related headers are read alike (`Builder.carries_alike`).
* **Theorem** (`Reader.Related.step`, `Reader.Related.scan`): readers that are lexically alike and
  whose builders and conditions are related stay so over every text.
* `Reader.scan_invariant`: the same for a property of one builder.
-/

namespace DeclAtlas

/-! ## Readings that agree -/

/-- The readings of two sources that say the same. -/
structure Reading.Agrees (a b : Reading) : Prop where
  /-- The same tree, node by node. -/
  tree : a.tree = b.tree
  /-- The same symbols are defined at the end. -/
  symbols : a.symbols.sameMembers b.symbols = true
  /-- Both sources are in order or have a fault of the same kind. -/
  fault : a.fault.map Fault.kind = b.fault.map Fault.kind

namespace Tree

variable {tree tree' : Tree} {base base' : NodeId} {symbols symbols' : Symbols} {t t' : Text}

/-- Readings agree if the readers are left with the same at the end. -/
theorem agrees_read
    (htree : ((Reader.start tree base symbols).scan t).endOfSource.tree =
      ((Reader.start tree' base' symbols').scan t').endOfSource.tree)
    (hsymbols : ((Reader.start tree base symbols).scan t).endOfSource.conditions.symbols.sameMembers
      ((Reader.start tree' base' symbols').scan t').endOfSource.conditions.symbols = true)
    (hfault : ((Reader.start tree base symbols).scan t).endOfSource.faultKind? =
      ((Reader.start tree' base' symbols').scan t').endOfSource.faultKind?) :
    (tree.read base symbols t).Agrees (tree'.read base' symbols' t') where
  tree := by rw [tree_read, tree_read, htree]
  symbols := by rw [symbols_read, symbols_read, hsymbols]
  fault := by rw [faultKind_read, faultKind_read, hfault]

/-- Readings agree if the readers meet before the end. -/
theorem agrees_read_of_scan_eq (post : Text)
    (h : (Reader.start tree base symbols).scan t = (Reader.start tree base symbols).scan t') :
    (tree.read base symbols (t ++ post)).Agrees (tree.read base symbols (t' ++ post)) := by
  apply agrees_read
  · rw [Reader.scan_append, h, ← Reader.scan_append]
  · rw [Reader.scan_append, h, ← Reader.scan_append]
    exact Symbols.sameMembers_refl _
  · rw [Reader.scan_append, h, ← Reader.scan_append]

end Tree

/-! ## Structural text -/

/-- The next character is read as structural text. -/
def Mode.isStructural : Mode → Bool
  | .plain | .slash | .verbatimQuote _ => true
  | _ => false

/-- The next character is read as structural text. -/
def Reader.Mode.isStructural : Reader.Mode → Bool
  | .plain | .slash | .verbatimQuote => true
  | _ => false

/-- Scanner and reader agree on what is structural text. -/
theorem Mode.isStructural_view (mode : Mode) (source : Source) :
    (mode.view source).isStructural = mode.isStructural := by
  cases mode <;> rfl

/-- A reader is in structural text if the scanner that it goes with is. -/
theorem Scanner.ReadsAs.isStructural {s : Scanner} {r : Reader} (h : s.ReadsAs r) :
    r.mode.isStructural = s.mode.isStructural := by
  rw [← h.view_eq]
  exact s.mode.isStructural_view s.source

/-- The header in front of the next character, in structural text. -/
def Reader.header (r : Reader) : Text :=
  if r.mode = .slash then r.pending ++ ['/'] else r.pending

/-- The reader that goes with a scanner in structural text has its header. -/
theorem Scanner.ReadsAs.header_eq {s : Scanner} {r : Reader} (h : s.ReadsAs r)
    (hmode : s.mode.isStructural = true) : r.header = s.header := by
  have hspans := h.spans
  have hfits := h.fits
  rw [← h.view_eq]
  cases hs : s.mode
  case plain | verbatimQuote =>
    unfold view
    rw [hs]
    rfl
  case slash =>
    rw [hs] at hspans hfits
    rw [header_of_slash hspans hfits]
    unfold view
    rw [hs]
    rfl
  all_goals
    rw [hs] at hmode
    cases hmode

/-- Structural text is text. -/
theorem Reader.Mode.isText_of_isStructural {mode : Reader.Mode} (h : mode.isStructural = true) :
    mode.IsText = true := by
  cases mode
  case plain | slash | verbatimQuote => rfl
  all_goals cases h

/-! ## Builders -/

namespace Builder

/-- Each operation of a builder leads from the first relation to the second. -/
structure Carries (R S : Builder → Builder → Prop) : Prop where
  /-- Nothing happens. -/
  stay : ∀ {b b' : Builder}, R b b' → S b b'
  /-- A slash turns out to open no comment. -/
  slash : ∀ {b b' : Builder}, R b b' → R (b.collect '/') (b'.collect '/')
  /-- A character is gathered. -/
  collect : ∀ {b b' : Builder} (c : Char), R b b' → S (b.collect c) (b'.collect c)
  /-- A boundary character is met. -/
  boundary : ∀ {b b' : Builder} (boundary : Boundary) (c : Char), R b b' →
    S (b.boundary boundary c) (b'.boundary boundary c)
  /-- An opening bracket is met. -/
  openBracket : ∀ {b b' : Builder} (c : Char), R b b' →
    S (b.openBracket.collect c) (b'.openBracket.collect c)
  /-- A closing bracket is met. -/
  closeBracket : ∀ {b b' : Builder} (trail : Trail) (c : Char), R b b' →
    S ((b.closeBracket trail).collect c) ((b'.closeBracket trail).collect c)
  /-- Type arguments may begin. -/
  startGeneric : ∀ {b b' : Builder}, R b b' →
    S ({ b with maybeGeneric := true }.collect '<') ({ b' with maybeGeneric := true }.collect '<')
  /-- Type arguments cannot go on. -/
  endGeneric : ∀ {b b' : Builder} (c : Char), R b b' →
    S ({ b with maybeGeneric := false }.collect c) ({ b' with maybeGeneric := false }.collect c)
  /-- A documentation line ends. -/
  document : ∀ {b b' : Builder} (line : Text), R b b' → S (b.document line) (b'.document line)

section carries

variable {R S : Builder → Builder → Prop} {b b' : Builder}

/-- A character of plain text leads from the first relation to the second. -/
theorem Carries.readPlain (h : Carries R S) (hb : R b b') (trail : Trail) (lineBlank : Bool)
    (c : Char) : S (b.readPlain trail lineBlank c) (b'.readPlain trail lineBlank c) := by
  unfold Builder.readPlain
  split
  · exact h.stay hb
  · by_cases hblank : lineBlank = true
    · rw [if_pos hblank, if_pos hblank]
      exact h.stay hb
    · rw [if_neg hblank, if_neg hblank]
      exact h.collect _ hb
  · exact h.boundary _ _ hb
  · exact h.boundary _ _ hb
  · exact h.boundary _ _ hb
  · exact h.boundary _ _ hb
  · exact h.openBracket _ hb
  · exact h.openBracket _ hb
  · exact h.closeBracket _ _ hb
  · exact h.closeBracket _ _ hb
  · exact h.startGeneric hb
  · exact h.endGeneric _ hb
  · exact h.endGeneric _ hb
  · exact h.collect _ hb

/-- Taking in one character, in whatever mode, leads from the first relation to the second. -/
theorem Carries.read (h : Carries R S) (hb : R b b') (trail : Trail) (lineBlank : Bool) (c : Char)
    (mode : Reader.Mode) :
    S (b.read trail lineBlank c mode) (b'.read trail lineBlank c mode) := by
  cases mode
  case plain | verbatimQuote => exact h.readPlain hb trail lineBlank c
  case slash =>
    rw [Builder.read, Builder.read]
    by_cases hcomment : c = '/' ∨ c = '*'
    · rw [if_pos hcomment, if_pos hcomment]
      exact h.stay hb
    · rw [if_neg hcomment, if_neg hcomment]
      exact h.readPlain (h.slash hb) trail lineBlank c
  case docComment line =>
    rw [Builder.read, Builder.read]
    by_cases hbreak : c = '\n'
    · rw [if_pos hbreak, if_pos hbreak]
      exact h.document line hb
    · rw [if_neg hbreak, if_neg hbreak]
      exact h.stay hb
  case string | stringEscape | char | charEscape | brokenChar => exact h.collect c hb
  case lineComment | blockComment | directive | skipped => exact h.stay hb

/-- The same for properties of one builder. -/
theorem Carries.read_property {P Q : Builder → Prop}
    (h : Carries (fun b _ => P b) fun b _ => Q b) (hb : P b) (trail : Trail) (lineBlank : Bool)
    (c : Char) (mode : Reader.Mode) : Q (b.read trail lineBlank c mode) :=
  @Carries.read _ _ b b h hb trail lineBlank c mode

end carries

/-- Two builders whose trees and headers are related and that have all else in common. -/
structure Alike (T : Tree → Tree → Prop) (H : Text → Text → Prop) (b b' : Builder) : Prop where
  /-- What the trees have in common. -/
  tree : T b.tree b'.tree
  /-- What the headers have in common. -/
  pending : H b.pending b'.pending
  /-- The same node receives declarations outside all blocks. -/
  base : b.base = b'.base
  /-- The same documentation waits. -/
  summary : b.summary = b'.summary
  /-- As many brackets are open. -/
  brackets : b.brackets = b'.brackets
  /-- Type arguments are open in both or in none. -/
  maybeGeneric : b.maybeGeneric = b'.maybeGeneric
  /-- As many braces are open. -/
  nesting : b.nesting = b'.nesting
  /-- The same body is passed over. -/
  body : b.body = b'.body
  /-- The same blocks are open. -/
  scopes : b.scopes = b'.scopes

section alike

variable {T : Tree → Tree → Prop} {H : Text → Text → Prop} {b b' : Builder}

/-- Builders that are alike are at the same node. -/
theorem Alike.current_eq (h : Alike T H b b') : b.current = b'.current := by
  rw [current, current, h.scopes, h.base]

/-- An opening bracket keeps builders alike. -/
theorem Alike.openBracket (h : Alike T H b b') : Alike T H b.openBracket b'.openBracket := by
  unfold Builder.openBracket
  by_cases hbody : b.body.isSome = true
  · rw [if_pos hbody, if_pos (h.body ▸ hbody)]
    exact h
  · rw [if_neg hbody, if_neg (h.body ▸ hbody)]
    exact { h with brackets := congrArg (· + 1) h.brackets }

/-- A closing bracket keeps builders alike. -/
theorem Alike.closeBracket (h : Alike T H b b') (trail : Trail) :
    Alike T H (b.closeBracket trail) (b'.closeBracket trail) := by
  have hbrackets : (b.closeBracket trail).brackets = (b'.closeBracket trail).brackets := by
    simp only [Builder.closeBracket, h.brackets, h.body]
  exact { h with brackets := hbrackets, maybeGeneric := rfl }

variable (hcollect : ∀ {t t' : Text} (c : Char), H t t' → H (t ++ [c]) (t' ++ [c]))

include hcollect

/-- Gathering a character keeps builders alike. -/
theorem Alike.collect (h : Alike T H b b') (c : Char) : Alike T H (b.collect c) (b'.collect c) :=
  { h with pending := hcollect c h.pending }

variable (hnil : H [] [])
  (hread : ∀ {b b' : Builder} (boundary : Boundary), Alike T H b b' →
    Alike T H (b.readHeader boundary) (b'.readHeader boundary))

include hnil hread

/-- A boundary keeps builders alike, if headers and trees stay related. -/
theorem Alike.boundary (h : Alike T H b b') (boundary : Boundary) (c : Char) :
    Alike T H (b.boundary boundary c) (b'.boundary boundary c) := by
  have hsame : 0 < b.brackets ∨ (boundary = .comma ∧ b.maybeGeneric = true) ↔
      0 < b'.brackets ∨ (boundary = .comma ∧ b'.maybeGeneric = true) := by
    rw [h.brackets, h.maybeGeneric]
  unfold Builder.boundary
  by_cases hinert : 0 < b.brackets ∨ (boundary = .comma ∧ b.maybeGeneric = true)
  · rw [if_pos hinert, if_pos (hsame.1 hinert)]
    exact h.collect hcollect c
  · rw [if_neg hinert, if_neg (mt hsame.2 hinert)]
    extract_lets counted counted'
    have hnesting : counted.nesting = counted'.nesting :=
      congrArg (Scanner.moveNesting · boundary) h.nesting
    have hcounted : Alike T H counted counted' :=
      { h with maybeGeneric := rfl, nesting := hnesting }
    rw [← hcounted.body, ← hnesting]
    split
    · exact hread boundary hcounted
    · rename_i body hbody
      by_cases hleaves : boundary = .closing ∧ counted.nesting < body.depth
      · rw [if_pos hleaves, if_pos hleaves]
        have hsummary : (counted.leaveBody body).summary = (counted'.leaveBody body).summary := by
          rw [leaveBody, leaveBody, hcounted.summary]
        exact { hcounted with
          pending := hnil
          summary := hsummary
          body := rfl
          scopes := congrArg List.tail h.scopes }
      · rw [if_neg hleaves, if_neg hleaves]
        exact hcounted.collect hcollect c

/-- Builders stay alike if related headers are read alike. -/
theorem carries_alike : Carries (Alike T H) (Alike T H) where
  stay h := h
  slash h := h.collect hcollect '/'
  collect c h := h.collect hcollect c
  boundary boundary c h := h.boundary hcollect hnil hread boundary c
  openBracket c h := h.openBracket.collect hcollect c
  closeBracket trail c h := (h.closeBracket trail).collect hcollect c
  startGeneric h := { h with pending := hcollect _ h.pending, maybeGeneric := rfl }
  endGeneric _ h := { h with pending := hcollect _ h.pending, maybeGeneric := rfl }
  document line h := { h with summary := congrArg (· ++ Text.trim line ++ ['\n']) h.summary }

end alike

end Builder

/-! ## Readers -/

namespace Reader

/-- Whatever the mode, a character reaches the builder in one way. -/
theorem toBuilder_step (r : Reader) (c : Char) :
    (r.step c).toBuilder = r.read r.trail r.lineBlank c r.mode := by
  unfold step dispatch
  split
  · rename_i line hmode
    rw [hmode]
    rfl
  · rfl

/-- Dispatching on the mode does not change the trail. -/
theorem trail_dispatch (r : Reader) (c : Char) : (r.dispatch c).trail = r.trail := by
  unfold dispatch
  split <;> rfl

/-- Dispatching on the mode does not change whether the line is blank. -/
theorem lineBlank_dispatch (r : Reader) (c : Char) : (r.dispatch c).lineBlank = r.lineBlank := by
  unfold dispatch
  split <;> rfl

/-- Every character moves the trail, whatever the mode. -/
theorem step_trail (r : Reader) (c : Char) : (r.step c).trail = r.trail.next c :=
  congrArg (Trail.next · c) (r.trail_dispatch c)

/-- Whether the line is blank depends on the characters alone. -/
theorem step_lineBlank (r : Reader) (c : Char) :
    (r.step c).lineBlank = blankBehind r.lineBlank c :=
  congrArg (blankBehind · c) (r.lineBlank_dispatch c)

/-- Two readers that are lexically alike, with related conditions and builders. -/
structure Related (C : Conditions → Conditions → Prop) (B : Builder → Builder → Prop)
    (r r' : Reader) : Prop extends SameLexing r r' where
  /-- What the builders have in common. -/
  builder : B r.toBuilder r'.toBuilder
  /-- What the conditions have in common. -/
  conditions : C r.conditions r'.conditions

/-- A relation between states of conditional compilation that directives keep. -/
structure Compatible (C : Conditions → Conditions → Prop) : Prop where
  /-- The text is left out in both states or in none. -/
  isSkipping : ∀ {a b : Conditions}, C a b → a.isSkipping = b.isSkipping
  /-- A directive keeps the relation. -/
  apply : ∀ {a b : Conditions} (directive : Directive), C a b →
    C (a.apply directive) (b.apply directive)

/-- Directives keep equal states equal. -/
theorem compatible_eq : Compatible (· = ·) where
  isSkipping h := congrArg Conditions.isSkipping h
  apply directive h := congrArg (Conditions.apply · directive) h

/-- Directives keep states with the same symbols alike. -/
theorem compatible_sameMembers : Compatible Conditions.SameMembers where
  isSkipping h := h.isSkipping
  apply directive h := h.apply directive

section related

variable {C : Conditions → Conditions → Prop} {B : Builder → Builder → Prop}
  (hC : Compatible C) {r r' : Reader}

include hC

/-- The end of a directive line keeps readers related. -/
theorem Related.endDirective (h : Related C B r r') (line : Text) :
    Related C B (r.endDirective line) (r'.endDirective line) := by
  have hconditions := hC.apply (Directive.ofLine line) h.conditions
  refine ⟨⟨?_, h.trail, h.lineBlank⟩, h.builder, hconditions⟩
  unfold Reader.endDirective
  simp only [hC.isSkipping hconditions]

/-- The end of the source keeps readers related. -/
theorem Related.endOfSource (h : Related C B r r') :
    Related C B r.endOfSource r'.endOfSource := by
  unfold Reader.endOfSource
  rw [← h.mode]
  split
  · exact h.endDirective hC _
  · exact h

variable (hB : Builder.Carries B B)

include hB

/-- **One character** keeps related readers related. -/
theorem Related.step (h : Related C B r r') (c : Char) : Related C B (r.step c) (r'.step c) := by
  have hbuilder : B (r.step c).toBuilder (r'.step c).toBuilder := by
    rw [toBuilder_step, toBuilder_step, ← h.mode, ← h.trail, ← h.lineBlank]
    exact hB.read h.builder r.trail r.lineBlank c r.mode
  have htrail : (r.step c).trail = (r'.step c).trail := by
    rw [step_trail, step_trail, h.trail]
  have hblank : (r.step c).lineBlank = (r'.step c).lineBlank := by
    rw [step_lineBlank, step_lineBlank, h.lineBlank]
  -- The end of a directive line is the only place where the conditions matter.
  by_cases hline : ∃ line, r.mode = .directive line ∧ c = '\n'
  · obtain ⟨line, hmode, rfl⟩ := hline
    have hend := h.endDirective hC line
    have hstep : ∀ {q : Reader}, q.mode = .directive line →
        q.step '\n' = (q.endDirective line).keep '\n' := by
      intro q hq
      simp only [Reader.step, dispatch, hq]
    have hmodes : (r.step '\n').mode = (r'.step '\n').mode := by
      rw [hstep hmode, hstep (h.mode.symm.trans hmode)]
      exact hend.mode
    refine ⟨⟨hmodes, htrail, hblank⟩, hbuilder, ?_⟩
    rw [hstep hmode, hstep (h.mode.symm.trans hmode)]
    exact hend.conditions
  · have hadvance : r.step c = (r.advance c).keep c :=
      step_of_mode fun line hmode hc => hline ⟨line, hmode, hc⟩
    have hadvance' : r'.step c = (r'.advance c).keep c :=
      step_of_mode fun line hmode hc => hline ⟨line, h.mode.trans hmode, hc⟩
    have hmodes : (r.step c).mode = (r'.step c).mode := by
      rw [hadvance, hadvance']
      change r.mode.next r.trail r.lineBlank c = r'.mode.next r'.trail r'.lineBlank c
      rw [h.mode, h.trail, h.lineBlank]
    refine ⟨⟨hmodes, htrail, hblank⟩, hbuilder, ?_⟩
    rw [hadvance, hadvance']
    exact h.conditions

/-- **A text** keeps related readers related. -/
theorem Related.scan (h : Related C B r r') (t : Text) : Related C B (r.scan t) (r'.scan t) := by
  induction t generalizing r r' with
  | nil => exact h
  | cons c t ih => exact ih (h.step hC hB c)

end related

/-- What every operation of a builder keeps, a text keeps. -/
theorem scan_invariant {P : Builder → Prop} (hP : Builder.Carries (fun b _ => P b) fun b _ => P b)
    {r : Reader} (h : P r.toBuilder) (t : Text) : P (r.scan t).toBuilder := by
  have hself : Related (· = ·) (fun b _ => P b) r r := ⟨⟨rfl, rfl, rfl⟩, h, rfl⟩
  exact (hself.scan compatible_eq hP t).builder

/-- What a source leaves open shows in what the readers have in common. -/
theorem SameLexing.faultKind? {r r' : Reader} (h : SameLexing r r')
    (hbrackets : r.brackets = r'.brackets) (hscopes : r.scopes = r'.scopes) :
    r.faultKind? = r'.faultKind? := by
  unfold Reader.faultKind?
  rw [h.mode, hbrackets, hscopes]

end Reader

end DeclAtlas
