import Mathlib
import DeclAtlas.Proofs.Reader.Relation

/-!
# Braces and blocks in step

A reader counts open braces, keeps the nodes of open blocks and remembers the body that it passes
over.  The three keep in step (`Builder.Counted`): outside bodies there is one node for each open
brace, and inside a body the nodes stay at the depth of the body while the count goes on.  Brackets
are never open in a body, since a body opens only where none is, and they do not count inside it.
The flag for type arguments is part of the same invariant: where it is set, the header has a `<`.

`Builder.carries_counted` says that every operation keeps the invariant, so every text does
(`Reader.counted_scan`).
-/

namespace DeclAtlas

namespace Header

/-- Only an opening brace gives a header a body or a value in a block. -/
theorem boundary_of_declare {context : HeaderContext} {parts : Parts} {element : Element}
    (h : parts.declare context = .declaration element true) : context.boundary = .opening := by
  unfold Parts.declare at h
  split at h
  · cases h
  · injection h with _ hopens
    exact (of_decide_eq_true hopens).1

/-- Parts are never taken for an initializer. -/
theorem declare_ne_initializer (context : HeaderContext) (parts : Parts) :
    parts.declare context ≠ .initializer := by
  unfold Parts.declare
  split <;> simp

/-- A declaration opens a body behind an opening brace only. -/
theorem boundary_of_read_declaration {context : HeaderContext} {t : Text} {element : Element}
    (h : read context t = .declaration element true) : context.boundary = .opening := by
  unfold read at h
  extract_lets stripped at h
  split_ifs at h
  exact boundary_of_declare h

/-- An initializer stands behind an opening brace only. -/
theorem boundary_of_read_initializer {context : HeaderContext} {t : Text}
    (h : read context t = .initializer) : context.boundary = .opening := by
  unfold read at h
  extract_lets stripped at h
  split_ifs at h with _ hassigns
  · exact hassigns.1
  · exact absurd h (declare_ne_initializer context _)

end Header

namespace Builder

/-- Braces, blocks, bodies and brackets are in step. -/
structure Counted (b : Builder) : Prop where
  /-- Outside bodies there is one open block for each open brace. -/
  outside : b.body = none → b.nesting = b.scopes.length
  /-- Inside a body no bracket counts, and the open blocks reach to the body. -/
  inside : ∀ body, b.body = some body →
    b.brackets = 0 ∧ b.scopes.length = body.depth ∧ 0 < body.depth ∧ body.depth ≤ b.nesting
  /-- Type arguments begin with a `<` in the header. -/
  generic : b.maybeGeneric = true → '<' ∈ b.pending

/-- The counts are those of another builder. -/
structure SameCounts (b b' : Builder) : Prop where
  /-- The same body is passed over. -/
  body : b'.body = b.body
  /-- As many brackets are open. -/
  brackets : b'.brackets = b.brackets
  /-- As many blocks are open. -/
  scopes : b'.scopes.length = b.scopes.length
  /-- As many braces are open. -/
  nesting : b'.nesting = b.nesting

/-- Only the counts and the gathered header matter. -/
theorem Counted.congr {b b' : Builder} (h : b.Counted) (hsame : SameCounts b b')
    (hgeneric : b'.maybeGeneric = true → '<' ∈ b'.pending) : b'.Counted := by
  refine ⟨?_, ?_, hgeneric⟩
  · intro hnone
    rw [hsame.nesting, hsame.scopes]
    exact h.outside (hsame.body ▸ hnone)
  · intro body hbody
    rw [hsame.brackets, hsame.scopes, hsame.nesting]
    exact h.inside body (hsame.body ▸ hbody)

/-- Gathering a character keeps the counts in step. -/
theorem Counted.collect {b : Builder} (h : b.Counted) (c : Char) : (b.collect c).Counted :=
  h.congr ⟨rfl, rfl, rfl, rfl⟩ fun hgeneric => List.mem_append_left _ (h.generic hgeneric)

/-- An opening bracket keeps the counts in step. -/
theorem Counted.openBracket {b : Builder} (h : b.Counted) : b.openBracket.Counted := by
  unfold Builder.openBracket
  split_ifs with hbody
  · exact h
  · refine ⟨h.outside, ?_, h.generic⟩
    intro body hsome
    exact absurd (Option.isSome_iff_exists.2 ⟨body, hsome⟩) hbody

/-- A closing bracket keeps the counts in step. -/
theorem Counted.closeBracket {b : Builder} (h : b.Counted) (trail : Trail) :
    (b.closeBracket trail).Counted := by
  refine ⟨h.outside, ?_, fun hgeneric => by cases hgeneric⟩
  intro body hsome
  have hsome : b.body = some body := hsome
  have hbrackets : (b.closeBracket trail).brackets = b.brackets := by
    simp [Builder.closeBracket, hsome]
  rw [hbrackets]
  exact h.inside body hsome

/-! ## Boundaries -/

/-- What taking in a header at a boundary can change of the counts: it may enter a body, and only
behind an opening brace. -/
structure Takes (b taken : Builder) (boundary : Boundary) : Prop where
  /-- The open blocks stay. -/
  scopes : taken.scopes = b.scopes
  /-- The open braces stay. -/
  nesting : taken.nesting = b.nesting
  /-- The open brackets stay. -/
  brackets : taken.brackets = b.brackets
  /-- Type arguments stay open or closed. -/
  maybeGeneric : taken.maybeGeneric = b.maybeGeneric
  /-- A body is entered at the present depth. -/
  body : taken.body = b.body ∨ boundary = .opening ∧
    ∃ isInitializer, taken.body = some { depth := b.nesting, isInitializer }

/-- Taking in a header changes the counts in one way only: it may enter a body. -/
theorem takes_take (b : Builder) {boundary : Boundary} {context : HeaderContext}
    (hcontext : context.boundary = boundary) (t : Text) :
    b.Takes (b.take boundary (Header.read context t)).1 boundary := by
  cases hread : Header.read context t with
  | importing => exact ⟨rfl, rfl, rfl, rfl, Or.inl rfl⟩
  | nothing => exact ⟨rfl, rfl, rfl, rfl, Or.inl rfl⟩
  | initializer =>
      have hopening := hcontext ▸ Header.boundary_of_read_initializer hread
      exact ⟨rfl, rfl, rfl, rfl, Or.inr ⟨hopening, true, rfl⟩⟩
  | declaration element opensBody =>
      refine ⟨rfl, rfl, rfl, rfl, ?_⟩
      cases opensBody with
      | false => exact Or.inl rfl
      | true =>
          have hopening := hcontext ▸ Header.boundary_of_read_declaration hread
          exact Or.inr ⟨hopening, false, rfl⟩

section header

variable {b taken : Builder} {boundary : Boundary}

/-- An opening brace opens one block, and a body is entered at the depth behind it. -/
theorem Takes.counted_opening (h : b.Takes taken .opening) (hbody : b.body = none)
    (hbrackets : b.brackets = 0) (hgeneric : b.maybeGeneric = false)
    (hnesting : b.nesting = b.scopes.length + 1) (node : NodeId) :
    (taken.moveScope .opening node).Counted := by
  have hlength : (taken.moveScope .opening node).scopes.length = b.nesting := by
    rw [moveScope, List.length_cons, h.scopes, hnesting]
  refine ⟨?_, ?_, ?_⟩
  · intro _
    rw [hlength]
    exact h.nesting
  · intro body hsome
    have hsome : taken.body = some body := hsome
    rcases h.body with hnone | ⟨-, isInitializer, hentered⟩
    · rw [hnone, hbody] at hsome
      cases hsome
    · rw [hentered] at hsome
      obtain rfl := Option.some.inj hsome
      refine ⟨h.brackets.trans hbrackets, hlength, ?_, h.nesting.ge⟩
      rw [hnesting]
      exact Nat.succ_pos _
  · intro hflagged
    have hflagged : taken.maybeGeneric = true := hflagged
    rw [h.maybeGeneric, hgeneric] at hflagged
    cases hflagged

/-- Any other boundary enters no body. -/
theorem Takes.counted_moveScope (h : b.Takes taken boundary) (hne : boundary ≠ .opening)
    (hbody : b.body = none) (hgeneric : b.maybeGeneric = false) (node : NodeId)
    (hnesting : b.nesting = (taken.moveScope boundary node).scopes.length) :
    (taken.moveScope boundary node).Counted := by
  have hsame : (taken.moveScope boundary node).body = none ∧
      (taken.moveScope boundary node).nesting = b.nesting ∧
      (taken.moveScope boundary node).maybeGeneric = false := by
    have hnone : taken.body = none := by
      rcases h.body with hnone | ⟨hopening, -⟩
      · exact hnone.trans hbody
      · exact absurd hopening hne
    cases boundary <;> exact ⟨hnone, h.nesting, h.maybeGeneric.trans hgeneric⟩
  refine ⟨?_, ?_, ?_⟩
  · intro _
    rw [hsame.2.1, hnesting]
  · intro body hsome
    rw [hsame.1] at hsome
    cases hsome
  · intro hflagged
    rw [hsame.2.2] at hflagged
    cases hflagged

/-- A header that ends outside bodies and brackets, its boundary already counted. -/
theorem counted_readHeader (hbody : b.body = none) (hbrackets : b.brackets = 0)
    (hgeneric : b.maybeGeneric = false)
    (hnesting : b.nesting = Scanner.moveNesting b.scopes.length boundary) :
    (b.readHeader boundary).Counted := by
  let taken := { b with pending := [] }.take boundary (Header.read (b.context boundary) b.pending)
  have htakes : Takes { b with pending := [] } taken.1 boundary := takes_take _ rfl b.pending
  change (taken.1.moveScope boundary taken.2).Counted
  cases boundary with
  | opening => exact htakes.counted_opening hbody hbrackets hgeneric hnesting taken.2
  | closing =>
      refine htakes.counted_moveScope (by decide) hbody hgeneric taken.2 ?_
      rw [moveScope, htakes.scopes, List.length_tail]
      exact hnesting
  | comma | semicolon =>
      refine htakes.counted_moveScope (by decide) hbody hgeneric taken.2 ?_
      rw [moveScope, htakes.scopes]
      exact hnesting

end header

/-- A boundary keeps the counts in step. -/
theorem Counted.boundary {b : Builder} (h : b.Counted) (boundary : Boundary) (c : Char) :
    (b.boundary boundary c).Counted := by
  unfold Builder.boundary
  split_ifs with hinert
  · exact h.collect c
  · extract_lets counted
    have hbrackets : b.brackets = 0 := by
      by_contra hne
      exact hinert (Or.inl (Nat.pos_of_ne_zero hne))
    have hcount : counted.nesting = Scanner.moveNesting b.nesting boundary := rfl
    split
    · rename_i hnone
      apply counted_readHeader hnone hbrackets rfl
      rw [hcount, h.outside hnone]
    · rename_i body hsome
      obtain ⟨-, hlength, hpos, hdepth⟩ := h.inside body hsome
      split_ifs with hleaves
      · -- The brace that leaves a body takes away the block of the body.
        obtain ⟨rfl, hless⟩ := hleaves
        have hmoved : counted.nesting = b.nesting - 1 := hcount
        refine ⟨?_, ?_, fun hflagged => by cases hflagged⟩
        · intro _
          change counted.nesting = b.scopes.tail.length
          rw [List.length_tail]
          omega
        · intro other hother
          cases hother
      · have hstays : body.depth ≤ counted.nesting := by
          cases boundary with
          | opening => exact hdepth.trans (Nat.le_succ _)
          | closing => exact Nat.le_of_not_lt fun hless => hleaves ⟨rfl, hless⟩
          | comma | semicolon => exact hdepth
        refine Counted.collect ⟨?_, ?_, fun hflagged => by cases hflagged⟩ c
        · intro hnone
          exact absurd (hnone.symm.trans hsome) (by simp)
        · intro other hother
          obtain rfl : body = other := Option.some.inj (hsome.symm.trans hother)
          exact ⟨hbrackets, hlength, hpos, hstays⟩

/-- Every operation keeps the counts in step. -/
theorem carries_counted : Carries (fun b _ => b.Counted) fun b _ => b.Counted where
  stay h := h
  slash h := h.collect '/'
  collect c h := h.collect c
  boundary boundary c h := h.boundary boundary c
  openBracket c h := h.openBracket.collect c
  closeBracket trail c h := (h.closeBracket trail).collect c
  startGeneric h := h.congr ⟨rfl, rfl, rfl, rfl⟩ fun _ => List.mem_append_right _ List.mem_cons_self
  endGeneric c h := h.congr ⟨rfl, rfl, rfl, rfl⟩ fun hflagged => by cases hflagged
  document _ h := h.congr ⟨rfl, rfl, rfl, rfl⟩ h.generic

end Builder

namespace Reader

/-- The counts are in step at the start. -/
theorem counted_start (tree : Tree) (base : NodeId) (symbols : Symbols) :
    (start tree base symbols).Counted := by
  refine ⟨fun _ => rfl, ?_, ?_⟩
  · intro body hsome
    cases hsome
  · intro hflagged
    cases hflagged

/-- A text keeps the counts in step. -/
theorem counted_scan {r : Reader} (h : r.Counted) (t : Text) : (r.scan t).Counted :=
  scan_invariant Builder.carries_counted h t

end Reader

end DeclAtlas
