import Mathlib
import DeclAtlas.Proofs.Reader.Line
import DeclAtlas.Proofs.Tree.WellFormed

/-!
# Reading chunk by chunk

A source in which no literal, ordinary comment or directive occurs is read in plain text between
its documentation lines.  `b.Reads t b'` says that the text `t`, read in plain text, leads from
`b` to `b'` and back to plain text; chunks that are read one after the other compose
(`Reads.append`).  There is one lemma for each kind of chunk:

* `reads_inert`: characters without a meaning of their own are gathered.
* `reads_docLine`: a documentation line is added to the summary.
* `reads_parameters`: between parentheses a comma does not end the header.
* `reads_boundary`: a boundary character outside brackets and bodies ends the header.
* `reads_body`: a body is passed over up to its closing brace.
-/

namespace DeclAtlas

namespace Reader

/-- The mode behind a character of plain text. -/
theorem mode_step_plain {r : Reader} (h : r.mode = .plain) (c : Char) :
    (r.step c).mode = Mode.nextPlain r.trail r.lineBlank c := by
  rw [step_of_mode (by simp [h])]
  simp [advance, keep, h, Mode.next]

/-- The builder behind a character of plain text. -/
theorem toBuilder_step_plain {r : Reader} (h : r.mode = .plain) (c : Char) :
    (r.step c).toBuilder = r.readPlain r.trail r.lineBlank c := by
  rw [step_of_mode (by simp [h])]
  simp [advance, keep, h, Builder.read]

/-- The trail goes on with every character of plain text. -/
theorem trail_step {r : Reader} (h : r.mode = .plain) (c : Char) :
    (r.step c).trail = r.trail.next c := by
  rw [step_of_mode (by simp [h])]
  rfl

end Reader

/-- The characters behind which plain text may end. -/
def opensRegion (c : Char) : Bool :=
  c == '"' || c == '\'' || c == '/' || c == '#'

/-- Behind most characters the text stays plain. -/
theorem Reader.Mode.nextPlain_of_not {c : Char} (h : opensRegion c = false) (trail : Trail)
    (lineBlank : Bool) : nextPlain trail lineBlank c = .plain := by
  simp only [opensRegion, Bool.or_eq_false_iff, beq_eq_false_iff_ne] at h
  obtain ⟨⟨⟨hquote, happostrophe⟩, hslash⟩, hsign⟩ := h
  unfold nextPlain
  split
  · exact absurd rfl hquote
  · exact absurd rfl happostrophe
  · exact absurd rfl hslash
  · exact absurd rfl hsign
  · rfl

namespace Builder

/-- Reading a text leads from plain text to plain text and from one builder to another. -/
def Reads (b : Builder) (t : Text) (b' : Builder) : Prop :=
  ∀ r : Reader, r.mode = .plain → r.toBuilder = b →
    (r.scan t).mode = .plain ∧ (r.scan t).toBuilder = b'

/-- The empty text leads from a builder to itself. -/
theorem reads_nil (b : Builder) : b.Reads [] b :=
  fun _ hmode hbuilder => ⟨hmode, hbuilder⟩

/-- Texts are read one after the other. -/
theorem Reads.append {b b' b'' : Builder} {t u : Text} (ht : b.Reads t b') (hu : b'.Reads u b'') :
    b.Reads (t ++ u) b'' := by
  intro r hmode hbuilder
  rw [Reader.scan_append]
  obtain ⟨hmode, hbuilder⟩ := ht r hmode hbuilder
  exact hu _ hmode hbuilder

/-- A text is read character by character. -/
theorem Reads.cons {b b' b'' : Builder} {c : Char} {t : Text} (hc : b.Reads [c] b')
    (ht : b'.Reads t b'') : b.Reads (c :: t) b'' :=
  hc.append ht

/-- The builder behind a text may be given in another form. -/
theorem Reads.of_eq {b b' b'' : Builder} {t : Text} (h : b.Reads t b') (heq : b' = b'') :
    b.Reads t b'' :=
  heq ▸ h

/-- A character that opens no region is read in plain text. -/
theorem reads_char {b b' : Builder} {c : Char} (hc : opensRegion c = false)
    (h : ∀ trail lineBlank, b.readPlain trail lineBlank c = b') : b.Reads [c] b' := by
  rintro r hmode rfl
  constructor
  · exact (Reader.mode_step_plain hmode c).trans (Reader.Mode.nextPlain_of_not hc _ _)
  · exact (Reader.toBuilder_step_plain hmode c).trans (h _ _)

/-! ## Inert text -/

/-- The characters that mean something in plain text. -/
def structuralChars : List Char :=
  ['"', '\'', '/', '#', ',', ';', '\x7b', '\x7d', '(', ')', '[', ']', '<', '>', '?']

/-- The characters that are gathered and have no other effect in plain text. -/
def isInert (c : Char) : Bool :=
  !structuralChars.contains c

/-- An inert character does not end plain text. -/
theorem opensRegion_of_isInert {c : Char} (h : isInert c = true) : opensRegion c = false := by
  by_contra hopens
  simp only [opensRegion, Bool.not_eq_false, Bool.or_eq_true, beq_iff_eq] at hopens
  rcases hopens with ((rfl | rfl) | rfl) | rfl <;> exact absurd h (by decide)

/-- An inert character is gathered. -/
theorem readPlain_of_isInert {c : Char} (h : isInert c = true) (b : Builder) (trail : Trail)
    (lineBlank : Bool) : b.readPlain trail lineBlank c = b.collect c := by
  unfold readPlain
  split
  case h_14 => rfl
  all_goals exact absurd h (by decide)

/-- A text of inert characters is gathered as a whole. -/
theorem reads_inert (b : Builder) {t : Text} (ht : ∀ c ∈ t, isInert c = true) :
    b.Reads t { b with pending := b.pending ++ t } := by
  induction t generalizing b with
  | nil =>
      rw [List.append_nil]
      exact b.reads_nil
  | cons c t ih =>
      have hc : isInert c = true := ht c List.mem_cons_self
      have hrest := ih (b.collect c) fun d hd => ht d (List.mem_cons_of_mem c hd)
      rw [collect, List.append_assoc, List.singleton_append] at hrest
      refine Reads.cons (reads_char (opensRegion_of_isInert hc) ?_) hrest
      exact readPlain_of_isInert hc b

/-! ## Documentation lines -/

/-- The rest of a line is gathered in a comment for documentation. -/
theorem scan_docComment (r : Reader) (line : Text) {t : Text} (ht : '\n' ∉ t) :
    { r with mode := .docComment line }.scan t =
      { r with mode := .docComment (line ++ t) }.pass t := by
  induction t generalizing r line with
  | nil => simp [Reader.pass]
  | cons c t ih =>
      obtain ⟨hc, ht⟩ := List.ne_and_not_mem_of_not_mem_cons ht
      have hstep : { r with mode := .docComment line }.step c =
          { r.keep c with mode := .docComment (line ++ [c]) } := by
        rw [Reader.step_of_mode (by simp)]
        simp [Reader.advance, Reader.Mode.next, read, Reader.keep, Ne.symm hc]
      rw [Reader.scan_cons, hstep, ih _ _ ht, Reader.pass_cons, List.append_assoc]
      rfl

/-- A documentation line is added to the summary. -/
theorem reads_docLine (b : Builder) {line : Text} (hline : '\n' ∉ line) :
    b.Reads (['/', '/', '/'] ++ line ++ ['\n']) (b.document line) := by
  rintro r hmode rfl
  have hopen : r.scan ['/', '/', '/'] =
      { r.pass ['/', '/', '/'] with mode := .docComment [] } := by
    obtain ⟨builder, conditions, mode, trail, lineBlank⟩ := r
    cases hmode
    rfl
  rw [List.append_assoc, Reader.scan_append, hopen, Reader.scan_append, scan_docComment _ _ hline]
  exact ⟨rfl, rfl⟩

/-! ## Parameter lists -/

/-- The characters of a parameter list: none that opens or closes anything, and no equals sign. -/
def isParameterChar (c : Char) : Bool :=
  (isInert c && c != '=') || c == ','

/-- The trail shows an equals sign behind no other character. -/
theorem trail_next_ne_equals {c : Char} (hc : c ≠ '=') (trail : Trail) :
    trail.next c ≠ .equals := by
  unfold Trail.next
  split
  · decide
  · decide
  · exact absurd rfl hc
  · decide

/-- Inside brackets the characters of a parameter list are gathered. -/
theorem readPlain_of_isParameterChar {b : Builder} (hbrackets : 0 < b.brackets) {c : Char}
    (h : isParameterChar c = true) (trail : Trail) (lineBlank : Bool) :
    b.readPlain trail lineBlank c = b.collect c := by
  simp only [isParameterChar, Bool.or_eq_true, Bool.and_eq_true, beq_iff_eq] at h
  rcases h with ⟨h, -⟩ | rfl
  · exact readPlain_of_isInert h b trail lineBlank
  · exact if_pos (Or.inl hbrackets)

/-- Inside brackets the characters of a parameter list are gathered, commas included. -/
theorem scan_parameters {r : Reader} (hmode : r.mode = .plain) (hbrackets : 0 < r.brackets)
    (htrail : r.trail ≠ .equals) {t : Text} (ht : ∀ c ∈ t, isParameterChar c = true) :
    (r.scan t).mode = .plain ∧ (r.scan t).trail ≠ .equals ∧
      (r.scan t).toBuilder = { r.toBuilder with pending := r.pending ++ t } := by
  induction t generalizing r with
  | nil =>
      rw [List.append_nil]
      exact ⟨hmode, htrail, rfl⟩
  | cons c t ih =>
      have hc : isParameterChar c = true := ht c List.mem_cons_self
      have hne : c ≠ '=' := by
        rintro rfl
        exact absurd hc (by decide)
      have hopens : opensRegion c = false := by
        simp only [isParameterChar, Bool.or_eq_true, Bool.and_eq_true, beq_iff_eq] at hc
        rcases hc with ⟨hc, -⟩ | rfl
        · exact opensRegion_of_isInert hc
        · decide
      have hbuilder : (r.step c).toBuilder = r.collect c := by
        rw [Reader.toBuilder_step_plain hmode, readPlain_of_isParameterChar hbrackets hc]
      have hstep : (r.step c).mode = .plain := by
        rw [Reader.mode_step_plain hmode, Reader.Mode.nextPlain_of_not hopens]
      have hnext : (r.step c).trail ≠ .equals := by
        rw [Reader.trail_step hmode]
        exact trail_next_ne_equals hne r.trail
      obtain ⟨hmode', htrail', hbuilder'⟩ := ih hstep (by rw [hbuilder]; exact hbrackets) hnext
        fun d hd => ht d (List.mem_cons_of_mem c hd)
      refine ⟨hmode', htrail', ?_⟩
      rw [Reader.scan_cons, hbuilder', hbuilder, collect]
      simp

/-- Nothing is open in which a boundary character would not end the header. -/
structure IsOpen (b : Builder) : Prop where
  /-- No bracket is open. -/
  brackets : b.brackets = 0
  /-- No type arguments may be open. -/
  maybeGeneric : b.maybeGeneric = false
  /-- No body is open. -/
  body : b.body = none

/-- A parameter list is gathered as it is. -/
theorem reads_parameters {b : Builder} (h : b.IsOpen) {t : Text}
    (ht : ∀ c ∈ t, isParameterChar c = true) :
    b.Reads ('(' :: t ++ [')']) { b with pending := b.pending ++ ('(' :: t ++ [')']) } := by
  rintro r hmode rfl
  have hopening : (r.step '(').toBuilder =
      { r.toBuilder with brackets := 1, pending := r.pending ++ ['('] } := by
    rw [Reader.toBuilder_step_plain hmode]
    simp [readPlain, openBracket, collect, h.body, h.brackets]
  have hfirst : (r.step '(').mode = .plain :=
    (Reader.mode_step_plain hmode '(').trans (Reader.Mode.nextPlain_of_not (by decide) _ _)
  have htrail : (r.step '(').trail ≠ .equals := by
    rw [Reader.trail_step hmode]
    exact trail_next_ne_equals (by decide) r.trail
  obtain ⟨hinner, hequals, hgathered⟩ :=
    scan_parameters hfirst (by rw [hopening]; exact Nat.one_pos) htrail ht
  rw [hopening] at hgathered
  rw [List.cons_append, Reader.scan_cons, Reader.scan_append, Reader.scan_cons, Reader.scan_nil]
  constructor
  · exact (Reader.mode_step_plain hinner ')').trans (Reader.Mode.nextPlain_of_not (by decide) _ _)
  · rw [Reader.toBuilder_step_plain hinner, hgathered]
    simp [readPlain, closeBracket, collect, h.body, h.brackets, h.maybeGeneric, hequals]

/-! ## Boundaries -/

/-- A boundary character is handed to the builder as a boundary. -/
theorem readPlain_boundary {c : Char} {boundary : Boundary}
    (hc : Boundary.ofChar? c = some boundary) (b : Builder) (trail : Trail) (lineBlank : Bool) :
    b.readPlain trail lineBlank c = b.boundary boundary c := by
  unfold Boundary.ofChar? at hc
  split at hc <;> cases hc <;> rfl

/-- A boundary character ends the header. -/
theorem reads_boundary {b : Builder} (h : b.IsOpen) {c : Char} {boundary : Boundary}
    (hc : Boundary.ofChar? c = some boundary) :
    b.Reads [c]
      ({ b with nesting := Scanner.moveNesting b.nesting boundary }.readHeader boundary) := by
  have hopens : opensRegion c = false := by
    unfold Boundary.ofChar? at hc
    split at hc <;> cases hc <;> decide
  refine reads_char hopens fun trail lineBlank => ?_
  rw [readPlain_boundary hc, Builder.boundary, if_neg (by simp [h.brackets, h.maybeGeneric])]
  simp only [h.body, ← h.maybeGeneric]

/-! ## Bodies -/

/-- Whether the braces of a text are balanced, with `depth` further ones to close. -/
def balanced : Nat → Text → Bool
  | depth, [] => depth == 0
  | depth, c :: t =>
    if c = '\x7b' then balanced (depth + 1) t
    else if c = '\x7d' then 0 < depth && balanced (depth - 1) t
    else balanced depth t

/-- The builder inside the body that `b` has just entered, `depth` braces deeper. -/
def Inside (b : Builder) (body : Body) (depth : Nat) (inner : Builder) : Prop :=
  ∃ pending generic,
    inner = { b with pending, maybeGeneric := generic, nesting := body.depth + depth }

section body

variable {b inner : Builder} {body : Body} {depth : Nat}

/-- Gathering a character stays inside the body. -/
theorem Inside.collect (h : b.Inside body depth inner) (c : Char) :
    b.Inside body depth (inner.collect c) := by
  obtain ⟨pending, generic, rfl⟩ := h
  exact ⟨pending ++ [c], generic, rfl⟩

/-- Whether a `<` may still be part of a type does not matter inside a body. -/
theorem Inside.setGeneric (h : b.Inside body depth inner) (generic : Bool) :
    b.Inside body depth { inner with maybeGeneric := generic } := by
  obtain ⟨pending, _, rfl⟩ := h
  exact ⟨pending, generic, rfl⟩

variable (hbody : b.body = some body)

include hbody

/-- The builder passes over the body as long as it is inside. -/
theorem Inside.body_eq (h : b.Inside body depth inner) : inner.body = some body := by
  obtain ⟨pending, generic, rfl⟩ := h
  exact hbody

/-- Inside a body commas and semicolons are gathered. -/
theorem Inside.separator (h : b.Inside body depth inner) {boundary : Boundary}
    (hmove : Scanner.moveNesting inner.nesting boundary = inner.nesting)
    (hclosing : boundary ≠ .closing) (c : Char) :
    b.Inside body depth (inner.boundary boundary c) := by
  unfold Builder.boundary
  split
  · exact h.collect c
  · simp only [hmove]
    split
    · rename_i hnone
      exact absurd (hnone.symm.trans (h.body_eq hbody)) (by simp)
    · rw [if_neg fun hboth => hclosing hboth.1]
      exact (h.setGeneric false).collect c

/-- Inside a body brackets do not count. -/
theorem Inside.openBracket (h : b.Inside body depth inner) :
    b.Inside body depth inner.openBracket := by
  rw [Builder.openBracket, if_pos (by simp [h.body_eq hbody])]
  exact h

/-- A closing bracket stays inside the body. -/
theorem Inside.closeBracket (h : b.Inside body depth inner) (trail : Trail) :
    b.Inside body depth (inner.closeBracket trail) := by
  have hnot : (trail != .equals && inner.body.isNone) = false := by simp [h.body_eq hbody]
  unfold Builder.closeBracket
  simp only [hnot, Bool.false_eq_true, if_false]
  exact h.setGeneric false

/-- Inside a body only braces count. -/
theorem Inside.readPlain (h : b.Inside body depth inner) {c : Char}
    (hc : opensRegion c = false) (hopening : c ≠ '\x7b') (hclosing : c ≠ '\x7d') (trail : Trail)
    (lineBlank : Bool) : b.Inside body depth (inner.readPlain trail lineBlank c) := by
  unfold Builder.readPlain
  split
  · exact absurd hc (by decide)
  · exact absurd hc (by decide)
  · exact h.separator hbody rfl (by decide) _
  · exact h.separator hbody rfl (by decide) _
  · exact absurd rfl hopening
  · exact absurd rfl hclosing
  · exact (h.openBracket hbody).collect _
  · exact (h.openBracket hbody).collect _
  · exact (h.closeBracket hbody trail).collect _
  · exact (h.closeBracket hbody trail).collect _
  · exact (h.setGeneric true).collect _
  · exact (h.setGeneric false).collect _
  · exact (h.setGeneric false).collect _
  · exact h.collect _

variable (hbrackets : b.brackets = 0)

include hbrackets

/-- An opening brace leads one level deeper. -/
theorem Inside.opening (h : b.Inside body depth inner) :
    b.Inside body (depth + 1) (inner.boundary .opening '\x7b') := by
  obtain ⟨pending, generic, rfl⟩ := h
  refine ⟨pending ++ ['\x7b'], false, ?_⟩
  simp [Builder.boundary, hbrackets, hbody, Scanner.moveNesting, Builder.collect, Nat.add_assoc]

/-- A closing brace leads one level up. -/
theorem Inside.closing (h : b.Inside body (depth + 1) inner) :
    b.Inside body depth (inner.boundary .closing '\x7d') := by
  obtain ⟨pending, generic, rfl⟩ := h
  refine ⟨pending ++ ['\x7d'], false, ?_⟩
  simp [Builder.boundary, hbrackets, hbody, Scanner.moveNesting, Builder.collect]

/-- A balanced text is passed over and leads back to where the body was entered. -/
theorem scan_balanced {t : Text} (ht : balanced depth t = true)
    (hchars : ∀ c ∈ t, opensRegion c = false) {r : Reader} (hmode : r.mode = .plain)
    (hinside : b.Inside body depth r.toBuilder) :
    (r.scan t).mode = .plain ∧ b.Inside body 0 (r.scan t).toBuilder := by
  induction t generalizing r depth with
  | nil =>
      have hdepth : depth = 0 := by simpa [balanced] using ht
      exact ⟨hmode, hdepth ▸ hinside⟩
  | cons c t ih =>
      have hc : opensRegion c = false := hchars c List.mem_cons_self
      have hrest : ∀ d ∈ t, opensRegion d = false := fun d hd =>
        hchars d (List.mem_cons_of_mem c hd)
      have hstep : (r.step c).mode = .plain := by
        rw [Reader.mode_step_plain hmode, Reader.Mode.nextPlain_of_not hc]
      have hbuilder := Reader.toBuilder_step_plain hmode c
      rw [balanced] at ht
      rw [Reader.scan_cons]
      split_ifs at ht with hopening hclosing
      · subst hopening
        exact ih ht hrest hstep (hbuilder ▸ hinside.opening hbody hbrackets)
      · subst hclosing
        rw [Bool.and_eq_true, decide_eq_true_eq] at ht
        obtain ⟨outer, rfl⟩ := Nat.exists_eq_add_of_lt ht.1
        rw [Nat.zero_add] at ht hinside
        exact ih ht.2 hrest hstep (hbuilder ▸ hinside.closing hbody hbrackets)
      · exact ih ht hrest hstep
          (hbuilder ▸ hinside.readPlain hbody hc hopening hclosing r.trail r.lineBlank)

/-- A body is passed over up to its closing brace. -/
theorem reads_body (hdepth : 0 < body.depth)
    (hnesting : b.nesting = body.depth) {t : Text} (ht : balanced 0 t = true)
    (hchars : ∀ c ∈ t, opensRegion c = false) :
    b.Reads (t ++ ['\x7d'])
      ({ b with maybeGeneric := false, nesting := b.nesting - 1 }.leaveBody body) := by
  rintro r hmode rfl
  have hentered : r.toBuilder.Inside body 0 r.toBuilder :=
    ⟨r.pending, r.maybeGeneric, by rw [Nat.add_zero, ← hnesting]⟩
  obtain ⟨hinner, pending, generic, hend⟩ := scan_balanced hbody hbrackets ht hchars hmode hentered
  rw [Reader.scan_append, Reader.scan_cons, Reader.scan_nil]
  constructor
  · exact (Reader.mode_step_plain hinner _).trans (Reader.Mode.nextPlain_of_not (by decide) _ _)
  · rw [Reader.toBuilder_step_plain hinner, hend]
    have hless : body.depth - 1 < body.depth := by omega
    simp [Builder.readPlain, Builder.boundary, hbrackets, hbody, Scanner.moveNesting, hless,
      leaveBody, hnesting]

end body

/-! ## Headers -/

section header

variable {b : Builder} {boundary : Boundary}

/-- A header that declares nothing is dropped. -/
theorem readHeader_nothing (h : Header.read (b.context boundary) b.pending = .nothing) :
    b.readHeader boundary =
      { b with pending := [], summary := [] }.moveScope boundary b.current := by
  rw [readHeader, h]
  rfl

/-- A header that declares an element adds it to the tree, with the documentation in front of it. -/
theorem readHeader_declaration {element : Element} {opensBody : Bool} {tree : Tree}
    {node : NodeId}
    (hread : Header.read (b.context boundary) b.pending = .declaration element opensBody)
    (hdeclare : b.tree.declare b.current (element.type.isAbsent && boundary != .opening)
      { element with summary := b.summary } = (tree, node)) :
    b.readHeader boundary =
      { b with
        tree
        pending := []
        summary := []
        body := if opensBody then some { depth := b.nesting, isInitializer := false }
          else b.body }.moveScope boundary node := by
  have htake : { b with pending := [] }.take boundary (.declaration element opensBody) =
      ({ b with
          tree
          pending := []
          summary := []
          body := if opensBody then some { depth := b.nesting, isInitializer := false }
            else b.body }, node) := by
    have hcurrent : { b with pending := [] }.current = b.current := rfl
    simp only [take, hcurrent, hdeclare]
  rw [readHeader, hread, htake]

end header

end Builder

end DeclAtlas
