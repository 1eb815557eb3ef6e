import Mathlib
import DeclAtlas.Proofs.Reader.Counting

/-!
# Text that leaves no trace

The contents of comments and of bodies play no part in what is declared.  The two theorems compare
two sources that differ in such a place only:

* **Theorem** (`Tree.read_comment`): the content of a comment may be anything that does not end the
  comment.
* **Theorem** (`Tree.read_body`): the text of a body may be anything that leads back to the body's
  own depth and holds no sign of a directive.

Both rest on the same idea: the reader behind such a text is a function of the reader in front of it
(`Reader.scan_blockComment`, `Reader.scan_lineComment`, `Reader.scan_body`), in which the text
itself does not occur.
-/

namespace DeclAtlas

/-- A comment between delimiters. -/
def blockComment (content : Text) : Text :=
  ['/', '*'] ++ content ++ ['*', '/']

/-- A comment up to the end of its line. -/
def lineComment (content : Text) : Text :=
  ['/', '/'] ++ content ++ ['\n']

namespace Reader

/-- The reader back in plain text behind a text that does not matter to the next character. -/
def resumed (r : Reader) (lineBlank : Bool) : Reader :=
  { r with mode := .plain, trail := .other, lineBlank }

/-! ## Comments -/

/-- A slash in structural text waits for the next character. -/
theorem step_slash {r : Reader} (hmode : r.mode.isStructural = true) (hslash : r.mode ≠ .slash) :
    r.step '/' = { r.keep '/' with mode := .slash } := by
  rw [step_of_isText (Mode.isText_of_isStructural hmode)]
  cases h : r.mode
  case slash => exact absurd h hslash
  case plain | verbatimQuote => simp [advance, h, Builder.read, Builder.readPlain, Mode.next,
    Mode.nextPlain, keep]
  all_goals
    rw [h] at hmode
    cases hmode

/-- Inside a comment between delimiters nothing changes up to the closing delimiter. -/
theorem scan_inBlockComment (r : Reader) (starred : Bool) {t : Text} (ht : ¬ ['*', '/'] <:+: t)
    (hhead : starred = true → t.head? ≠ some '/') :
    ∃ starred', { r with mode := .blockComment starred }.scan t =
      { r.pass t with mode := .blockComment starred' } := by
  induction t generalizing r starred with
  | nil => exact ⟨starred, rfl⟩
  | cons c t ih =>
      have hgoesOn : ¬ (c = '/' ∧ starred = true) := by
        rintro ⟨rfl, hstarred⟩
        exact hhead hstarred rfl
      have hstep : { r with mode := .blockComment starred }.step c =
          { r.keep c with mode := .blockComment (c == '*') } := by
        rw [step_of_isText rfl]
        simp only [advance, Mode.next, if_neg hgoesOn]
        rfl
      have hrest : ¬ ['*', '/'] <:+: t := fun h => ht (h.trans (List.suffix_cons c t).isInfix)
      have hnext : (c == '*') = true → t.head? ≠ some '/' := by
        intro hstar hfirst
        rw [beq_iff_eq] at hstar
        obtain ⟨rest, rfl⟩ := List.head?_eq_some_iff.1 hfirst
        subst hstar
        exact ht ⟨[], rest, rfl⟩
      rw [scan_cons, hstep, pass_cons]
      exact ih (r.keep c) (c == '*') hrest hnext

/-- The content of a comment between delimiters leaves no trace. -/
theorem scan_blockComment {r : Reader} (hmode : r.mode.isStructural = true)
    (hslash : r.mode ≠ .slash) {t : Text} (ht : ¬ ['*', '/'] <:+: t) :
    r.scan (blockComment t) = r.resumed false := by
  have hopen : r.scan ['/', '*'] =
      { r.pass ['/', '*'] with mode := .blockComment false } := by
    rw [scan_cons, step_slash hmode hslash]
    rfl
  obtain ⟨starred, hinside⟩ := scan_inBlockComment (r.pass ['/', '*']) false ht (by simp)
  have hclose : { (r.pass ['/', '*']).pass t with mode := .blockComment starred }.scan ['*', '/'] =
      { r.pass (blockComment t) with mode := .plain } := by
    rw [blockComment, pass_append, pass_append]
    rfl
  rw [blockComment, scan_append, scan_append, hopen, hinside, hclose]
  simp [resumed, pass, blockComment, Trail.next, blankBehind, Text.isBlank]

/-- Inside a line comment nothing changes up to the end of the line. -/
theorem scan_inLineComment (r : Reader) (fresh : Bool) {t : Text} (ht : '\n' ∉ t)
    (hhead : fresh = true → t.head? ≠ some '/') :
    ∃ fresh', { r with mode := .lineComment fresh }.scan t =
      { r.pass t with mode := .lineComment fresh' } := by
  induction t generalizing r fresh with
  | nil => exact ⟨fresh, rfl⟩
  | cons c t ih =>
      obtain ⟨hc, ht⟩ := List.ne_and_not_mem_of_not_mem_cons ht
      have hordinary : ¬ (c = '/' ∧ fresh = true) := by
        rintro ⟨rfl, hfresh⟩
        exact hhead hfresh rfl
      have hstep : { r with mode := .lineComment fresh }.step c =
          { r.keep c with mode := .lineComment false } := by
        rw [step_of_isText rfl]
        simp only [advance, Mode.next, if_neg hordinary, if_neg hc.symm]
        rfl
      rw [scan_cons, hstep, pass_cons]
      exact ih (r.keep c) false ht (by simp)

/-- The content of a line comment leaves no trace, unless it is documentation. -/
theorem scan_lineComment {r : Reader} (hmode : r.mode.isStructural = true)
    (hslash : r.mode ≠ .slash) {t : Text} (ht : '\n' ∉ t) (hhead : t.head? ≠ some '/') :
    r.scan (lineComment t) = r.resumed true := by
  have hopen : r.scan ['/', '/'] = { r.pass ['/', '/'] with mode := .lineComment true } := by
    rw [scan_cons, step_slash hmode hslash]
    rfl
  obtain ⟨fresh, hinside⟩ := scan_inLineComment (r.pass ['/', '/']) true ht fun _ => hhead
  have hclose : { (r.pass ['/', '/']).pass t with mode := .lineComment fresh }.scan ['\n'] =
      { r.pass (lineComment t) with mode := .plain } := by
    rw [lineComment, pass_append, pass_append]
    rfl
  rw [lineComment, scan_append, scan_append, hopen, hinside, hclose]
  simp [resumed, pass, lineComment, Trail.next, blankBehind]

end Reader

/-! ## Bodies -/

namespace Builder

/-- The second builder is in the same body as the first, or in another place with the same open
blocks. -/
structure SameBlocks (b b' : Builder) : Prop where
  /-- The same declarations. -/
  tree : b'.tree = b.tree
  /-- The same node for declarations outside all blocks. -/
  base : b'.base = b.base
  /-- As many brackets are open. -/
  brackets : b'.brackets = b.brackets
  /-- The same body is passed over. -/
  body : b'.body = b.body
  /-- The same blocks are open. -/
  scopes : b'.scopes = b.scopes

section body

variable {b b' : Builder} {body : Body}

/-- Gathering a character opens and closes no block. -/
theorem SameBlocks.collect (h : b.SameBlocks b') (c : Char) : b.SameBlocks (b'.collect c) :=
  ⟨h.tree, h.base, h.brackets, h.body, h.scopes⟩

variable (hbody : b.body = some body)

include hbody

/-- An opening bracket inside a body opens no block. -/
theorem SameBlocks.openBracket (h : b.SameBlocks b') : b.SameBlocks b'.openBracket := by
  have hinside : b'.body.isSome = true := by rw [h.body, hbody]; rfl
  rw [Builder.openBracket, if_pos hinside]
  exact h

/-- A closing bracket inside a body closes no block. -/
theorem SameBlocks.closeBracket (h : b.SameBlocks b') (trail : Trail) :
    b.SameBlocks (b'.closeBracket trail) := by
  have hinside : b'.body.isNone = false := by rw [h.body, hbody]; rfl
  refine ⟨h.tree, h.base, ?_, h.body, h.scopes⟩
  simp only [Builder.closeBracket, hinside, Bool.and_false]
  exact h.brackets

/-- A boundary in a body leaves the body or changes no block. -/
theorem SameBlocks.boundary (h : b.SameBlocks b') (boundary : Boundary) (c : Char)
    (hdepth : body.depth ≤ (b'.boundary boundary c).nesting) :
    b.SameBlocks (b'.boundary boundary c) := by
  have hinside : b'.body = some body := h.body.trans hbody
  unfold Builder.boundary at hdepth ⊢
  simp only [hinside] at hdepth ⊢
  split_ifs at hdepth ⊢ with hinert hleaves
  · exact h.collect c
  · exact absurd hleaves.2 (Nat.not_lt.2 hdepth)
  · exact ⟨h.tree, h.base, h.brackets, hbody.symm, h.scopes⟩

/-- As long as the count of braces does not fall below a body, no operation changes its blocks. -/
theorem carries_sameBlocks :
    Carries (fun b' _ => b.SameBlocks b')
      fun b' _ => body.depth ≤ b'.nesting → b.SameBlocks b' where
  stay h _ := h
  slash h := h.collect '/'
  collect c h _ := h.collect c
  boundary boundary c h hdepth := h.boundary hbody boundary c hdepth
  openBracket c h _ := (h.openBracket hbody).collect c
  closeBracket trail c h _ := (h.closeBracket hbody trail).collect c
  startGeneric h _ := ⟨h.tree, h.base, h.brackets, h.body, h.scopes⟩
  endGeneric _ h _ := ⟨h.tree, h.base, h.brackets, h.body, h.scopes⟩
  document _ h _ := ⟨h.tree, h.base, h.brackets, h.body, h.scopes⟩

end body

/-- The builder behind the closing brace of the body it is in. -/
def behindBody (b : Builder) : Builder :=
  { b with
    pending := []
    summary := []
    maybeGeneric := false
    nesting := b.nesting - 1
    body := none
    scopes := b.scopes.tail }

/-- A closing brace at the depth of a body leaves the body, and what was gathered and documented
inside is dropped. -/
theorem boundary_behindBody {b : Builder} (h : b.Counted)
    (hbody : b.body = some { depth := b.nesting, isInitializer := false }) (c : Char) :
    b.boundary .closing c = b.behindBody := by
  obtain ⟨hbrackets, -, hpos, -⟩ := h.inside _ hbody
  have hpos : 0 < b.nesting := hpos
  have hleaves : b.nesting - 1 < b.nesting := by omega
  simp [boundary, hbrackets, hbody, Scanner.moveNesting, hleaves, leaveBody, behindBody]

/-- Behind the body it does not matter what was in it. -/
theorem SameBlocks.behindBody_eq {b b' : Builder} (h : b.SameBlocks b')
    (hnesting : b'.nesting = b.nesting) : b'.behindBody = b.behindBody := by
  unfold behindBody
  rw [h.tree, h.base, h.brackets, h.scopes, hnesting]

end Builder

namespace Reader

/-- The second reader is somewhere in the body that the first has entered. -/
structure Within (r inner : Reader) : Prop where
  /-- No block has been opened or closed. -/
  blocks : r.SameBlocks inner.toBuilder
  /-- No directive has been met. -/
  conditions : inner.conditions = r.conditions
  /-- None begins here. -/
  text : inner.mode.IsText = true

section body

variable {r inner : Reader} {body : Body} (hbody : r.body = some body)

include hbody

/-- A character that leaves no body and begins no directive keeps the reader within the body. -/
theorem Within.step (h : r.Within inner) {c : Char} (hc : c ≠ '#')
    (hdepth : body.depth ≤ (inner.step c).nesting) : r.Within (inner.step c) := by
  refine ⟨?_, ?_, ?_⟩
  · rw [toBuilder_step] at hdepth ⊢
    exact (Builder.carries_sameBlocks hbody).read_property h.blocks _ _ _ _ hdepth
  · rw [step_of_isText h.text]
    exact h.conditions
  · rw [step_of_isText h.text]
    exact Mode.isText_next h.text fun hsign => hc hsign.1

/-- A text whose braces stay at the depth of the body or above it stays in the body. -/
theorem Within.scan (h : r.Within inner) {t : Text} (ht : '#' ∉ t)
    (hdepth : ∀ p, p <+: t → body.depth ≤ (inner.scan p).nesting) : r.Within (inner.scan t) := by
  induction t generalizing inner with
  | nil => exact h
  | cons c t ih =>
      obtain ⟨hc, ht⟩ := List.ne_and_not_mem_of_not_mem_cons ht
      have hfirst : body.depth ≤ (inner.step c).nesting :=
        hdepth [c] ((List.prefix_cons_inj c).2 List.nil_prefix)
      refine ih (h.step hbody hc.symm hfirst) ht ?_
      intro p hp
      exact hdepth (c :: p) ((List.prefix_cons_inj c).2 hp)

end body

/-- A closing brace in structural text is a boundary. -/
theorem step_closing {r : Reader} (hmode : r.mode.isStructural = true) (h : r.Counted)
    (hbody : r.body = some { depth := r.nesting, isInitializer := false }) :
    r.step '\x7d' = { r with toBuilder := r.behindBody }.resumed false := by
  have hcollected := Builder.boundary_behindBody (b := r.collect '/') (h.collect '/') hbody '\x7d'
  have hbehind : (r.collect '/').behindBody = r.behindBody := rfl
  have hread : r.read r.trail r.lineBlank '\x7d' r.mode = r.behindBody := by
    cases hr : r.mode
    case plain | verbatimQuote => exact Builder.boundary_behindBody h hbody '\x7d'
    case slash => exact hcollected.trans hbehind
    all_goals
      rw [hr] at hmode
      cases hmode
  have hnext : r.mode.next r.trail r.lineBlank '\x7d' = .plain := by
    cases hr : r.mode
    case plain | verbatimQuote | slash => simp [Mode.next, Mode.nextPlain]
    all_goals
      rw [hr] at hmode
      cases hmode
  rw [step_of_isText (Mode.isText_of_isStructural hmode), advance, hread, hnext]
  simp [keep, resumed, Trail.next, blankBehind, Text.isBlank]

/-- **Bodies**: the text of a body leaves no trace behind its closing brace. -/
theorem scan_body {r : Reader} (hmode : r.mode.isStructural = true) (h : r.Counted)
    (hbody : r.body = some { depth := r.nesting, isInitializer := false }) {t : Text} (ht : '#' ∉ t)
    (hstructural : (r.scan t).mode.isStructural = true) (hback : (r.scan t).nesting = r.nesting)
    (habove : ∀ p, p <+: t → r.nesting ≤ (r.scan p).nesting) :
    r.scan (t ++ ['\x7d']) = { r with toBuilder := r.behindBody }.resumed false := by
  have hself : r.Within r :=
    ⟨⟨rfl, rfl, rfl, rfl, rfl⟩, rfl, Mode.isText_of_isStructural hmode⟩
  have hwithin : r.Within (r.scan t) := hself.scan hbody ht habove
  have hinside : (r.scan t).body =
      some { depth := (r.scan t).nesting, isInitializer := false } := by
    rw [hwithin.blocks.body, hbody, hback]
  have hbehind : (r.scan t).behindBody = r.behindBody := hwithin.blocks.behindBody_eq hback
  rw [scan_append, scan_cons, scan_nil, step_closing hstructural (counted_scan h t) hinside,
    hbehind]
  unfold resumed
  rw [hwithin.conditions]

end Reader

/-! ## Sources -/

namespace Scanner

/-- Scanner and reader wait behind a slash together. -/
theorem ReadsAs.mode_ne_slash {s : Scanner} {r : Reader} (h : s.ReadsAs r)
    (hslash : s.mode ≠ .slash) : r.mode ≠ .slash := by
  rw [← h.view_eq]
  change s.mode.view s.source ≠ .slash
  cases hmode : s.mode
  case slash => exact absurd hmode hslash
  all_goals simp [Mode.view]

/-- Scanner and reader count the same braces. -/
theorem ReadsAs.nesting {s : Scanner} {r : Reader} (h : s.ReadsAs r) : r.nesting = s.nesting := by
  rw [← h.view_eq]
  rfl

/-- Scanner and reader pass over the same body. -/
theorem ReadsAs.body {s : Scanner} {r : Reader} (h : s.ReadsAs r) : r.body = s.body := by
  rw [← h.view_eq]
  rfl

/-- A text that a body may hold, read by a scanner that has just entered the body. -/
structure PassesOver (s : Scanner) (t : Text) : Prop where
  /-- No directive begins in it. -/
  unsigned : '#' ∉ t
  /-- It leads back to structural text. -/
  structural : (s.scan t).mode.isStructural = true
  /-- It leads back to the depth of the body. -/
  back : (s.scan t).nesting = s.nesting
  /-- It never closes the body. -/
  above : ∀ p, p <+: t → s.nesting ≤ (s.scan p).nesting

/-- A body may be empty. -/
theorem passesOver_nil {s : Scanner} (hmode : s.mode.isStructural = true) : s.PassesOver [] where
  unsigned := List.not_mem_nil
  structural := hmode
  back := rfl
  above p hp := by
    rw [List.prefix_nil.1 hp]
    exact Nat.le_refl s.nesting

/-- Behind a text that a body may hold, the reader has left no trace of it. -/
theorem PassesOver.scan_eq {s : Scanner} {r : Reader} (hreads : s.ReadsAs r) (hcounted : r.Counted)
    (hmode : s.mode.isStructural = true)
    (hbody : s.body = some { depth := s.nesting, isInitializer := false }) {t : Text}
    (h : s.PassesOver t) :
    r.scan (t ++ ['\x7d']) = { r with toBuilder := r.behindBody }.resumed false := by
  apply Reader.scan_body (hreads.isStructural.trans hmode) hcounted
  · rw [hreads.body, hbody, hreads.nesting]
  · exact h.unsigned
  · exact (hreads.scan t).isStructural.trans h.structural
  · rw [(hreads.scan t).nesting, h.back, hreads.nesting]
  · intro p hp
    rw [(hreads.scan p).nesting, hreads.nesting]
    exact h.above p hp

end Scanner

namespace Tree

variable (tree : Tree) (base : NodeId) (symbols : Symbols)

/-- **The content of comments does not matter.**  In structural text, where no slash is waiting, two
comments of the same form give readings that agree, whatever stands in them and behind them. -/
theorem read_comment {front : Text}
    (hmode : ((Scanner.start tree base symbols).scan front).mode.isStructural = true)
    (hslash : ((Scanner.start tree base symbols).scan front).mode ≠ .slash) (t u rest : Text) :
    (¬ ['*', '/'] <:+: t → ¬ ['*', '/'] <:+: u →
      (tree.read base symbols (front ++ blockComment t ++ rest)).Agrees
        (tree.read base symbols (front ++ blockComment u ++ rest))) ∧
      ('\n' ∉ t → t.head? ≠ some '/' → '\n' ∉ u → u.head? ≠ some '/' →
        (tree.read base symbols (front ++ lineComment t ++ rest)).Agrees
          (tree.read base symbols (front ++ lineComment u ++ rest))) := by
  have hreads := (Scanner.readsAs_start tree base symbols).scan front
  have hstructural := hreads.isStructural.trans hmode
  have hwaits := hreads.mode_ne_slash hslash
  constructor
  · intro ht hu
    apply agrees_read_of_scan_eq
    rw [Reader.scan_append, Reader.scan_append, Reader.scan_blockComment hstructural hwaits ht,
      Reader.scan_blockComment hstructural hwaits hu]
  · intro ht hthead hu huhead
    apply agrees_read_of_scan_eq
    rw [Reader.scan_append, Reader.scan_append,
      Reader.scan_lineComment hstructural hwaits ht hthead,
      Reader.scan_lineComment hstructural hwaits hu huhead]

/-- A source that stops inside a header. -/
def insideHeader : Text :=
  "class A \x7b int[] "

/-- Comments with other contents, between delimiters and up to the end of a line, inside a
header. -/
theorem read_comment_insideHeader :
    ((Scanner.start (.ofLabel "Test") root {}).scan insideHeader).mode.isStructural = true ∧
      ((ofLabel "Test").read root {}
          (insideHeader ++ blockComment "\x7d \" /*\n# *" ++ "a; \x7d")).Agrees
        ((ofLabel "Test").read root {} (insideHeader ++ blockComment "/" ++ "a; \x7d")) ∧
      ((ofLabel "Test").read root {} (insideHeader ++ lineComment " \x7d ' /" ++ "a; \x7d")).Agrees
        ((ofLabel "Test").read root {} (insideHeader ++ lineComment "" ++ "a; \x7d")) := by
  have hmode : ((Scanner.start (.ofLabel "Test") root {}).scan insideHeader).mode = .plain := by
    decide +kernel
  have hstructural : ((Scanner.start (.ofLabel "Test") root {}).scan
      insideHeader).mode.isStructural = true := by
    rw [hmode]
    rfl
  have hslash : ((Scanner.start (.ofLabel "Test") root {}).scan insideHeader).mode ≠ .slash := by
    rw [hmode]
    decide
  refine ⟨hstructural, ?_, ?_⟩
  · exact (read_comment (.ofLabel "Test") root {} hstructural hslash _ _ _).1 (by decide)
      (by decide)
  · exact (read_comment (.ofLabel "Test") root {} hstructural hslash _ _ _).2 (by decide)
      (by decide) (by decide) (by decide)

/-- **The text of bodies does not matter.**  Where a scanner has just entered the body of a function
or property, two texts that it passes over give readings that agree, whatever stands behind the
closing brace. -/
theorem read_body {front : Text}
    (hmode : ((Scanner.start tree base symbols).scan front).mode.isStructural = true)
    (hbody : ((Scanner.start tree base symbols).scan front).body =
      some { depth := ((Scanner.start tree base symbols).scan front).nesting,
             isInitializer := false })
    {t u : Text} (ht : ((Scanner.start tree base symbols).scan front).PassesOver t)
    (hu : ((Scanner.start tree base symbols).scan front).PassesOver u) (rest : Text) :
    (tree.read base symbols (front ++ t ++ '\x7d' :: rest)).Agrees
      (tree.read base symbols (front ++ u ++ '\x7d' :: rest)) := by
  have hreads := (Scanner.readsAs_start tree base symbols).scan front
  have hcounted := Reader.counted_scan (Reader.counted_start tree base symbols) front
  have hclosing : ∀ t, front ++ t ++ '\x7d' :: rest = front ++ (t ++ ['\x7d']) ++ rest := by simp
  rw [hclosing, hclosing]
  apply agrees_read_of_scan_eq
  rw [Reader.scan_append _ front, Reader.scan_append _ front,
    ht.scan_eq hreads hcounted hmode hbody, hu.scan_eq hreads hcounted hmode hbody]

/-- A source that stops right behind the brace that opens a body. -/
def insideBody : Text :=
  "class A \x7b int M(int x) \x7b"

/-- A text for a body: a brace in a literal, a bracket that is never closed, documentation. -/
def busyBody : Text :=
  " f(\"\x7d\"; if (x < 1) \x7b \x7d /// lost\n "

/-- A body may hold the busy text. -/
theorem passesOver_busyBody :
    ((Scanner.start (.ofLabel "Test") root {}).scan insideBody).PassesOver busyBody where
  unsigned := by decide
  structural := by decide +kernel
  back := by decide +kernel
  above p hp := by
    have hall : ∀ p ∈ busyBody.inits,
        ((Scanner.start (.ofLabel "Test") root {}).scan insideBody).nesting ≤
          (((Scanner.start (.ofLabel "Test") root {}).scan insideBody).scan p).nesting := by
      decide +kernel
    exact hall p ((List.mem_inits p busyBody).2 hp)

/-- The body with the busy text is read as the empty one. -/
theorem read_body_busyBody :
    ((Scanner.start (.ofLabel "Test") root {}).scan insideBody).PassesOver busyBody ∧
      ((ofLabel "Test").read root {}
          (insideBody ++ busyBody ++ '\x7d' :: " int b; \x7d".toList)).Agrees
        ((ofLabel "Test").read root {} (insideBody ++ [] ++ '\x7d' :: " int b; \x7d".toList)) := by
  have hmode : ((Scanner.start (.ofLabel "Test") root {}).scan
      insideBody).mode.isStructural = true := by
    decide +kernel
  refine ⟨passesOver_busyBody, ?_⟩
  exact read_body (.ofLabel "Test") root {} hmode (by decide +kernel) passesOver_busyBody
    (Scanner.passesOver_nil hmode) _

end Tree

end DeclAtlas
