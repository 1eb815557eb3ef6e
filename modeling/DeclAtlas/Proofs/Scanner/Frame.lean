import Mathlib
import DeclAtlas.Scanner.Run

/-!
# What one character can change

Most characters leave the structure of what is read alone: the tree, the open blocks and the count
of braces.  Only a boundary character in plain text can change it, and then only through
`Scanner.boundary`.  `dispatch_cases` says so once, for every mode and every character; what holds
of the structure along a whole source is then a matter of `boundary` alone.
-/

namespace DeclAtlas

/-- The character that is a boundary. -/
def Boundary.char : Boundary → Char
  | .comma => ','
  | .semicolon => ';'
  | .opening => '\x7b'
  | .closing => '\x7d'

/-- A boundary is known by its character. -/
theorem Boundary.eq_char_of_ofChar? {c : Char} {b : Boundary} (h : Boundary.ofChar? c = some b) :
    c = b.char := by
  unfold Boundary.ofChar? at h
  split at h <;> cases h <;> rfl

namespace Scanner

/-- The second state has the structure of the first. -/
structure SameStructure (s t : Scanner) : Prop where
  /-- The same declarations. -/
  tree : t.tree = s.tree
  /-- The same node for declarations outside all blocks. -/
  base : t.base = s.base
  /-- The same open blocks. -/
  scopes : t.scopes = s.scopes
  /-- The same count of braces. -/
  nesting : t.nesting = s.nesting
  /-- The same body that is passed over. -/
  body : t.body = s.body

theorem SameStructure.refl (s : Scanner) : SameStructure s s :=
  ⟨rfl, rfl, rfl, rfl, rfl⟩

/-- States of the same structure may be compared one after the other. -/
theorem SameStructure.trans {s t u : Scanner} (h : SameStructure s t) (h' : SameStructure t u) :
    SameStructure s u :=
  ⟨h'.tree.trans h.tree, h'.base.trans h.base, h'.scopes.trans h.scopes,
    h'.nesting.trans h.nesting, h'.body.trans h.body⟩

/-- The mode is no part of the structure. -/
theorem sameStructure_mode (s : Scanner) (mode : Mode) : SameStructure s { s with mode } :=
  ⟨rfl, rfl, rfl, rfl, rfl⟩

/-- What is left out of the header is no part of the structure. -/
theorem sameStructure_exclude (s : Scanner) (start stop : Nat) :
    SameStructure s (s.exclude start stop) :=
  ⟨rfl, rfl, rfl, rfl, rfl⟩

/-- What has been read is no part of the structure. -/
theorem sameStructure_keep (s : Scanner) (c : Char) : SameStructure s (s.keep c) :=
  ⟨rfl, rfl, rfl, rfl, rfl⟩

/-- An opening bracket keeps the structure. -/
theorem sameStructure_openBracket (s : Scanner) : SameStructure s s.openBracket := by
  unfold openBracket
  split
  · exact .refl s
  · exact ⟨rfl, rfl, rfl, rfl, rfl⟩

/-- A closing bracket keeps the structure. -/
theorem sameStructure_closeBracket (s : Scanner) : SameStructure s s.closeBracket :=
  ⟨rfl, rfl, rfl, rfl, rfl⟩

/-- The end of a directive line keeps the structure. -/
theorem sameStructure_endDirective (s : Scanner) (lineStart regionStart : Nat) :
    SameStructure s (s.endDirective lineStart regionStart) := by
  unfold endDirective
  extract_lets line s'
  have h : SameStructure s s' := ⟨rfl, rfl, rfl, rfl, rfl⟩
  split
  · exact h.trans (sameStructure_mode s' _)
  · exact h.trans (sameStructure_exclude s' _ _)

/-- In plain text a character is a boundary or leaves the structure alone. -/
theorem stepPlain_cases (s : Scanner) (c : Char) :
    (∃ b, s.stepPlain c = { s with mode := .plain }.boundary b) ∨
      SameStructure s (s.stepPlain c) := by
  have hplain : SameStructure s { s with mode := .plain } := sameStructure_mode s _
  unfold stepPlain
  extract_lets s'
  split
  · exact Or.inr (hplain.trans (sameStructure_mode s' _))
  · exact Or.inr (hplain.trans (sameStructure_mode s' _))
  · exact Or.inr (hplain.trans (sameStructure_mode s' _))
  · split
    · exact Or.inr (hplain.trans (sameStructure_mode s' _))
    · exact Or.inr hplain
  · exact Or.inl ⟨.comma, rfl⟩
  · exact Or.inl ⟨.semicolon, rfl⟩
  · exact Or.inl ⟨.opening, rfl⟩
  · exact Or.inl ⟨.closing, rfl⟩
  · exact Or.inr (hplain.trans (sameStructure_openBracket s'))
  · exact Or.inr (hplain.trans (sameStructure_openBracket s'))
  · exact Or.inr (hplain.trans (sameStructure_closeBracket s'))
  · exact Or.inr (hplain.trans (sameStructure_closeBracket s'))
  all_goals exact Or.inr ⟨rfl, rfl, rfl, rfl, rfl⟩

/-- **What one character can change**: in every mode it is a boundary in plain text or leaves the
structure alone. -/
theorem dispatch_cases (s : Scanner) (c : Char) :
    (∃ b, s.dispatch c = { s with mode := .plain }.boundary b) ∨
      SameStructure s (s.dispatch c) := by
  unfold dispatch
  split
  · exact stepPlain_cases s c
  · unfold stepSlash
    split
    · exact Or.inr (sameStructure_mode s _)
    · exact Or.inr (sameStructure_mode s _)
    · exact stepPlain_cases s c
  · unfold stepString
    split <;> exact Or.inr ⟨rfl, rfl, rfl, rfl, rfl⟩
  · exact Or.inr (sameStructure_mode s _)
  · unfold stepVerbatimQuote
    split
    · exact Or.inr (sameStructure_mode s _)
    · exact stepPlain_cases s c
  · unfold stepChar
    split <;> exact Or.inr ⟨rfl, rfl, rfl, rfl, rfl⟩
  · exact Or.inr (sameStructure_mode s _)
  · exact Or.inr (.refl s)
  · unfold stepLineComment
    split
    · split <;> exact Or.inr ⟨rfl, rfl, rfl, rfl, rfl⟩
    · exact Or.inr (sameStructure_exclude s _ _)
    · exact Or.inr (.refl s)
  · unfold stepDocComment
    split <;> exact Or.inr ⟨rfl, rfl, rfl, rfl, rfl⟩
  · unfold stepBlockComment
    split <;> exact Or.inr ⟨rfl, rfl, rfl, rfl, rfl⟩
  · unfold stepDirective
    split
    · exact Or.inr (sameStructure_endDirective s _ _)
    · exact Or.inr (.refl s)
  · unfold stepSkipped
    split
    · split <;> exact Or.inr ⟨rfl, rfl, rfl, rfl, rfl⟩
    · exact Or.inr (.refl s)

/-! ## Boundaries and ends -/

/-- The scanner with a boundary counted. -/
def counted (s : Scanner) (boundary : Boundary) : Scanner :=
  { s with maybeGeneric := false, nesting := moveNesting s.nesting boundary }

/-- What a boundary does outside brackets and bodies. -/
theorem boundary_of_outside {s : Scanner} {boundary : Boundary}
    (hactive : ¬ (0 < s.brackets ∨ (boundary = .comma ∧ s.maybeGeneric = true)))
    (hbody : s.body = none) : s.boundary boundary = (s.counted boundary).readHeader boundary := by
  rw [Scanner.boundary, if_neg hactive]
  extract_lets counted
  split
  · rfl
  · rename_i body hsome
    cases hbody.symm.trans hsome

/-- What a boundary does inside a body. -/
theorem boundary_of_inside {s : Scanner} {boundary : Boundary} {body : Body}
    (hactive : ¬ (0 < s.brackets ∨ (boundary = .comma ∧ s.maybeGeneric = true)))
    (hbody : s.body = some body) :
    s.boundary boundary =
      if boundary = .closing ∧ (s.counted boundary).nesting < body.depth then
        (s.counted boundary).leaveBody body
      else s.counted boundary := by
  rw [Scanner.boundary, if_neg hactive]
  extract_lets counted
  split
  · rename_i hnone
    cases hbody.symm.trans hnone
  · rename_i other hsome
    cases hbody.symm.trans hsome
    rfl

/-- The end of a source leaves the structure alone. -/
theorem sameStructure_endOfSource (s : Scanner) : SameStructure s s.endOfSource := by
  unfold endOfSource
  split
  · exact sameStructure_endDirective s _ _
  · exact .refl s

/-- What a property of states keeps under one character, it keeps under a text. -/
theorem scan_induction {P : Scanner → Prop} (hstep : ∀ s c, P s → P (s.step c)) {s : Scanner}
    (hs : P s) (t : Text) : P (s.scan t) := by
  induction t generalizing s with
  | nil => exact hs
  | cons c t ih => exact ih (hstep s c hs)

end Scanner

end DeclAtlas
