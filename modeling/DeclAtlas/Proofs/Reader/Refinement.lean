import Mathlib
import DeclAtlas.Proofs.Reader.Basic
import DeclAtlas.Proofs.Source.Slice

/-!
# The scanner reads like a reader

* `Scanner.view`: the reader that a scanner amounts to.  Its header is what has been read since the
  header started, without the ranges left out, up to the comment or directive that is being read.
* `Scanner.ReadsAs s r`: the offsets in `s` fit its source, and `r` is the view of `s`.
* **Theorem** (`ReadsAs.step`, `ReadsAs.scan`): reading keeps `ReadsAs`, so a scanner and the
  reader at its start stay in step over every text.
* `Tree.tree_read`, `Tree.symbols_read`, `Tree.faultKind_read`: what reading a source gives is what
  the reader is left with.

A character is kept last (`Scanner.keep`), so the lemmas `readsAs_keep_*` speak of a state in which
the character has been dealt with and not yet kept.  There is one for each way in which the header
can change: it gets the character, it stays in front of a region, a region ends, it starts anew.
-/

namespace DeclAtlas

/-! ## The trail of a source -/

namespace Source

/-- The last characters of a source, as far as they matter. -/
def trail (source : Source) : Trail :=
  source.chars.toList.foldl Trail.next .other

/-- The trail of a source goes on with each character. -/
@[simp] theorem trail_push (source : Source) (c : Char) :
    (source.push c).trail = source.trail.next c := by
  simp [trail, push]

/-- A header that starts at `start` ends at `stop`, with the ranges left out of it. -/
structure Covers (source : Source) (start stop : Nat) (ranges : List Range) : Prop where
  /-- The header ends behind its start. -/
  start_le : start ≤ stop
  /-- The source reaches to the end of the header. -/
  stop_le : stop ≤ source.size
  /-- No range is empty or reaches behind the header. -/
  ranges : ∀ range ∈ ranges, range.start < range.stop ∧ range.stop ≤ stop

/-- A source holds nothing, or it has a last character. -/
theorem empty_or_push (source : Source) :
    source = {} ∨ ∃ (front : Source) (c : Char), source = front.push c := by
  rcases source with ⟨chars⟩
  rcases Nat.eq_zero_or_pos chars.size with hempty | hpos
  · rw [Array.eq_empty_of_size_eq_zero hempty]
    exact Or.inl rfl
  · obtain ⟨front, c, rfl⟩ := Array.exists_push_of_size_pos hpos
    exact Or.inr ⟨⟨front⟩, c, rfl⟩

end Source

namespace Trail

/-- The trail shows an equals sign behind an equals sign only. -/
theorem next_eq_equals_iff (trail : Trail) (c : Char) : trail.next c = .equals ↔ c = '=' := by
  unfold next
  split <;> simp_all

/-- The trail shows the sign of verbatim strings behind this sign only. -/
theorem next_eq_sign_iff (trail : Trail) (c : Char) : trail.next c = .sign ↔ c = '@' := by
  unfold next
  split <;> simp_all

/-- The trail shows both signs behind a dollar that follows the sign of verbatim strings. -/
theorem next_eq_signDollar_iff (trail : Trail) (c : Char) :
    trail.next c = .signDollar ↔ trail = .sign ∧ c = '$' := by
  unfold next
  split <;> simp_all

/-- A quote opens a verbatim string behind the sign, or behind the sign and a dollar. -/
theorem opensVerbatim_iff (trail : Trail) :
    trail.opensVerbatim = true ↔ trail = .sign ∨ trail = .signDollar := by
  cases trail <;> simp [opensVerbatim]

end Trail

namespace Source

/-- An equals sign is seen on the trail exactly if it is the last character of the source. -/
theorem trail_eq_equals_iff (source : Source) :
    source.trail = .equals ↔ source.before? source.size = some '=' := by
  rcases source.empty_or_push with rfl | ⟨front, c, rfl⟩
  · simp [trail, before?, size]
  · rw [trail_push, Trail.next_eq_equals_iff, size_push, before?_push, Option.some_inj]

/-- The sign is seen on the trail exactly if it is the last character of the source. -/
theorem trail_eq_sign_iff (source : Source) :
    source.trail = .sign ↔ source.before? source.size = some '@' := by
  rcases source.empty_or_push with rfl | ⟨front, c, rfl⟩
  · simp [trail, before?, size]
  · rw [trail_push, Trail.next_eq_sign_iff, size_push, before?_push, Option.some_inj]

/-- Both signs are seen on the trail exactly if they are the last two characters of the source. -/
theorem trail_eq_signDollar_iff (source : Source) :
    source.trail = .signDollar ↔
      source.before? source.size = some '$' ∧ source.before? (source.size - 1) = some '@' := by
  rcases source.empty_or_push with rfl | ⟨front, c, rfl⟩
  · simp [trail, before?, size]
  · rw [trail_push, Trail.next_eq_signDollar_iff, trail_eq_sign_iff, size_push, before?_push,
      Option.some_inj, Nat.add_sub_cancel, before?_push_of_le front c (Nat.le_refl _), and_comm]

end Source

/-! ## The view of a scanner -/

namespace Mode

/-- The offset up to which the header reaches when the next character has the given offset. -/
def limit (offset : Nat) : Mode → Nat
  | .slash => offset - 1
  | .lineComment openedAt | .docComment openedAt | .blockComment openedAt => openedAt
  | .directive _ regionStart | .skipped regionStart => regionStart
  | _ => offset

/-- The mode without offsets. -/
def view (source : Source) : Mode → Reader.Mode
  | .plain => .plain
  | .slash => .slash
  | .string _ verbatim => .string verbatim
  | .stringEscape _ => .stringEscape
  | .verbatimQuote _ => .verbatimQuote
  | .char _ => .char
  | .charEscape _ => .charEscape
  | .brokenChar _ => .brokenChar
  | .lineComment openedAt => .lineComment (source.size == openedAt + 2)
  | .docComment openedAt => .docComment (source.slice (openedAt + 3) source.size)
  | .blockComment openedAt =>
    .blockComment (openedAt + 3 ≤ source.size && source.before? source.size == some '*')
  | .directive lineStart _ => .directive (source.slice lineStart source.size)
  | .skipped _ => .skipped

/-- The mode speaks of what the source holds. -/
def Fits (source : Source) : Mode → Prop
  | .slash => source.before? source.size = some '/'
  | .lineComment openedAt | .blockComment openedAt => openedAt + 2 ≤ source.size
  | .docComment openedAt => openedAt + 3 ≤ source.size
  | .directive lineStart regionStart => regionStart ≤ lineStart ∧ lineStart < source.size
  | .skipped regionStart => regionStart < source.size
  | _ => True

/-- The characters read in the mode belong to the header. -/
def Gathers : Mode → Bool
  | .slash | .lineComment _ | .docComment _ | .blockComment _ | .directive .. | .skipped _ => false
  | _ => true

end Mode

namespace Scanner

/-- What the scanner has built, with the header of the reader given. -/
@[simps] def builder (s : Scanner) (pending : Text) : Builder where
  tree := s.tree
  base := s.base
  pending := pending
  summary := s.summary
  brackets := s.brackets
  maybeGeneric := s.maybeGeneric
  nesting := s.nesting
  body := s.body
  scopes := s.scopes.map Scope.node

/-- The reader at the place of the scanner, with the mode and what is built given. -/
def readerAt (s : Scanner) (mode : Reader.Mode) (built : Builder) : Reader where
  toBuilder := built
  conditions := s.conditions
  mode := mode
  trail := s.source.trail
  lineBlank := s.lineBlank

/-- What has been read since the header started, up to an offset and without the ranges left
out. -/
def gathered (s : Scanner) (limit : Nat) : Text :=
  s.source.sliceExcluding s.spanStart limit s.excluded

/-- The reader that a scanner amounts to. -/
def view (s : Scanner) : Reader :=
  s.readerAt (s.mode.view s.source) (s.builder (s.gathered (s.mode.limit s.offset)))

/-- The current header and the ranges left out of it end by the given offset. -/
def Spans (s : Scanner) (limit : Nat) : Prop :=
  s.source.Covers s.spanStart limit s.excluded

/-- The scanner reads on as the reader does. -/
structure ReadsAs (s : Scanner) (r : Reader) : Prop where
  /-- The header ends where the mode says. -/
  spans : s.Spans (s.mode.limit s.offset)
  /-- The mode speaks of what was read. -/
  fits : s.mode.Fits s.source
  /-- The reader is the view of the scanner. -/
  view_eq : s.view = r

/-- What spans up to a limit spans up to any later one that has been read. -/
theorem Spans.mono {s : Scanner} {limit limit' : Nat} (h : s.Spans limit) (hle : limit ≤ limit')
    (hoffset : limit' ≤ s.offset) : s.Spans limit' where
  start_le := h.start_le.trans hle
  stop_le := hoffset
  ranges range hrange := ⟨(h.ranges range hrange).1, (h.ranges range hrange).2.trans hle⟩

/-- Scanner and trail agree on what opens a verbatim string. -/
theorem opensVerbatim_eq (s : Scanner) : s.opensVerbatim = s.source.trail.opensVerbatim := by
  rw [Bool.eq_iff_iff, Trail.opensVerbatim_iff, Source.trail_eq_sign_iff,
    Source.trail_eq_signDollar_iff]
  simp [opensVerbatim, offset]

/-! ## Keeping a character -/

section keep

variable {s : Scanner} (c : Char)

/-- Keeping a character moves the offset by one. -/
theorem offset_keep : (s.keep c).offset = s.offset + 1 :=
  s.source.size_push c

/-- Keeping a character is the same for scanner and reader. -/
theorem readerAt_keep (mode : Reader.Mode) (built : Builder) :
    (s.keep c).readerAt mode built = (s.readerAt mode built).keep c := by
  simp [readerAt, keep, Reader.keep, Reader.blankBehind]

/-- A further character leaves the span up to a limit as it is. -/
theorem Spans.keep {limit : Nat} (h : s.Spans limit) : (s.keep c).Spans limit where
  start_le := h.start_le
  stop_le := by
    rw [show (s.keep c).source.size = s.offset + 1 from offset_keep c]
    exact Nat.le_succ_of_le h.stop_le
  ranges := h.ranges

/-- What was gathered up to a limit does not change when a character is kept. -/
theorem gathered_keep {limit : Nat} (h : limit ≤ s.offset) :
    (s.keep c).gathered limit = s.gathered limit :=
  s.source.sliceExcluding_push_of_le c h

/-- A character that belongs to the header is gathered behind the others. -/
theorem gathered_keep_offset (h : s.Spans s.offset) :
    (s.keep c).gathered (s.offset + 1) = s.gathered s.offset ++ [c] :=
  s.source.sliceExcluding_push_size c h.start_le h.ranges

/-- The header stays in front of the region that is being read. -/
theorem readsAs_keep_region {limit : Nat} (h : s.Spans limit)
    (hlimit : s.mode.limit (s.offset + 1) = limit) (hfits : s.mode.Fits (s.source.push c)) :
    (s.keep c).ReadsAs
      ((s.readerAt (s.mode.view (s.source.push c)) (s.builder (s.gathered limit))).keep c) := by
  have hkept : (s.keep c).mode.limit (s.keep c).offset = limit := by rw [offset_keep]; exact hlimit
  refine ⟨?_, hfits, ?_⟩
  · rw [hkept]
    exact h.keep c
  · rw [view, hkept, gathered_keep c h.stop_le, readerAt_keep]
    rfl

/-- The header gets the character. -/
theorem readsAs_keep_collect (h : s.Spans s.offset) (hgathers : s.mode.Gathers = true) :
    (s.keep c).ReadsAs
      ((s.readerAt (s.mode.view (s.source.push c)) ((s.builder s.header).collect c)).keep c) := by
  have hkept : (s.keep c).mode.limit (s.keep c).offset = s.offset + 1 := by
    rw [offset_keep]
    cases hmode : s.mode <;> simp_all [Mode.Gathers, Mode.limit, keep]
  refine ⟨?_, ?_, ?_⟩
  · rw [hkept]
    exact (h.keep c).mono (Nat.le_succ _) (offset_keep c).ge
  · cases hmode : s.mode <;> simp_all [Mode.Gathers, Mode.Fits, keep]
  · rw [view, hkept, gathered_keep_offset c h, readerAt_keep]
    rfl

/-- A region that ends with the character is left out of the header. -/
theorem readsAs_keep_exclude {limit : Nat} (h : s.Spans limit) :
    ((s.exclude limit (s.offset + 1)).keep c).ReadsAs
      ((s.readerAt .plain (s.builder (s.gathered limit))).keep c) := by
  have hlt : limit < s.offset + 1 := Nat.lt_succ_of_le h.stop_le
  have hkept : ((s.exclude limit (s.offset + 1)).keep c).mode.limit
      ((s.exclude limit (s.offset + 1)).keep c).offset = s.offset + 1 := offset_keep c
  refine ⟨?_, trivial, ?_⟩
  · rw [hkept]
    refine ⟨h.start_le.trans hlt.le, (offset_keep c).ge, ?_⟩
    intro range hrange
    rcases List.mem_append.mp hrange with hold | hnew
    · exact ⟨(h.ranges range hold).1, (h.ranges range hold).2.trans hlt.le⟩
    · rw [List.mem_singleton.mp hnew]
      exact ⟨hlt, Nat.le_refl _⟩
  · have hgathered : ((s.exclude limit (s.offset + 1)).keep c).gathered (s.offset + 1) =
        s.gathered limit :=
      ((s.source.push c).sliceExcluding_append h.start_le hlt h.ranges).trans
        (s.source.sliceExcluding_push_of_le c h.stop_le)
    rw [view, hkept, hgathered, readerAt_keep]
    rfl

/-- A header that starts behind the character is empty. -/
theorem readsAs_keep_startSpan (hmode : s.mode = .plain) (hstart : s.spanStart = s.offset + 1)
    (hranges : s.excluded = []) :
    (s.keep c).ReadsAs ((s.readerAt .plain (s.builder [])).keep c) := by
  have hkept : (s.keep c).mode.limit (s.keep c).offset = s.offset + 1 := by
    rw [offset_keep]
    simp [keep, hmode, Mode.limit]
  refine ⟨?_, ?_, ?_⟩
  · rw [hkept]
    refine ⟨hstart.le, (offset_keep c).ge, ?_⟩
    intro range hrange
    rw [show (s.keep c).excluded = [] from hranges] at hrange
    cases hrange
  · simp [keep, hmode, Mode.Fits]
  · have hgathered : (s.keep c).gathered (s.offset + 1) = [] := by
      simp [gathered, keep, hstart, hranges, Source.sliceExcluding]
    rw [view, hkept, hgathered, readerAt_keep, show (s.keep c).mode = .plain from hmode]
    rfl

end keep

/-! ## Boundaries -/

/-- The builder is at the node that the scanner is at. -/
theorem current_builder (s : Scanner) (pending : Text) :
    (s.builder pending).current = s.current := by
  cases hscopes : s.scopes <;> simp [builder, Builder.current, current, hscopes]

/-- The builder reads headers in the context of the scanner. -/
theorem context_builder (s : Scanner) (pending : Text) (b : Boundary) :
    (s.builder pending).context b = s.context b := by
  unfold Builder.context context
  rw [current_builder]
  rfl

/-- Taking a header does the same to scanner and builder. -/
theorem take_builder (s : Scanner) (pending : Text) (b : Boundary) (header : Header) :
    (s.builder pending).take b header =
      ((s.take b header).1.builder pending, (s.take b header).2) := by
  cases header <;> simp only [Builder.take, take, current_builder] <;> rfl

/-- Entering and leaving scopes does the same to scanner and builder. -/
theorem moveScope_builder (s : Scanner) (pending : Text) (b : Boundary) (node : NodeId)
    (openedAt : Nat) :
    (s.builder pending).moveScope b node = (s.moveScope b node openedAt).builder pending := by
  cases b <;> simp [Builder.moveScope, moveScope, builder]

/-- Reading the pending header does the same to scanner and builder. -/
theorem readHeader_builder (s : Scanner) (b : Boundary) :
    (s.builder s.header).readHeader b = (s.readHeader b).builder [] := by
  have hempty : { s.builder s.header with pending := [] } =
      (s.startSpan (s.offset + 1)).builder [] := rfl
  unfold Builder.readHeader readHeader
  simp only [hempty, context_builder, take_builder, moveScope_builder _ _ _ _ s.offset]
  rfl

/-- The second scanner stands at the same place of the same source as the first. -/
structure SamePlace (s t : Scanner) : Prop where
  /-- The same source. -/
  source : t.source = s.source
  /-- The same mode. -/
  mode : t.mode = s.mode
  /-- The header starts at the same offset. -/
  spanStart : t.spanStart = s.spanStart
  /-- The same ranges are left out of the header. -/
  excluded : t.excluded = s.excluded
  /-- The same state of conditional compilation. -/
  conditions : t.conditions = s.conditions
  /-- The line is blank in both or in none. -/
  lineBlank : t.lineBlank = s.lineBlank

/-- Scanners at the same place may be exchanged one after the other. -/
theorem SamePlace.trans {s t u : Scanner} (h : SamePlace s t) (h' : SamePlace t u) :
    SamePlace s u :=
  ⟨h'.source.trans h.source, h'.mode.trans h.mode, h'.spanStart.trans h.spanStart,
    h'.excluded.trans h.excluded, h'.conditions.trans h.conditions,
    h'.lineBlank.trans h.lineBlank⟩

/-- The reader of a scanner depends on its place only. -/
theorem SamePlace.readerAt {s t : Scanner} (h : SamePlace s t) (mode : Reader.Mode)
    (built : Builder) : t.readerAt mode built = s.readerAt mode built := by
  simp [Scanner.readerAt, h.source, h.conditions, h.lineBlank]

/-- Taking a header does not move the scanner. -/
theorem samePlace_take (s : Scanner) (b : Boundary) (header : Header) :
    SamePlace s (s.take b header).1 := by
  cases header <;> exact ⟨rfl, rfl, rfl, rfl, rfl, rfl⟩

/-- Entering and leaving scopes does not move the scanner. -/
theorem samePlace_moveScope (s : Scanner) (b : Boundary) (node : NodeId) (openedAt : Nat) :
    SamePlace s (s.moveScope b node openedAt) := by
  cases b <;> exact ⟨rfl, rfl, rfl, rfl, rfl, rfl⟩

/-- Behind a header the next one starts, and the scanner is not moved otherwise. -/
theorem samePlace_readHeader (s : Scanner) (b : Boundary) :
    SamePlace (s.startSpan (s.offset + 1)) (s.readHeader b) :=
  (samePlace_take (s.startSpan (s.offset + 1)) b (Header.read (s.context b) s.header)).trans
    (samePlace_moveScope _ b _ s.offset)

/-- Scanner and reader agree behind a boundary that ends a header. -/
theorem readsAs_readHeader {s : Scanner} (hmode : s.mode = .plain) (b : Boundary) (c : Char) :
    ((s.readHeader b).keep c).ReadsAs
      ((s.readerAt .plain ((s.builder s.header).readHeader b)).keep c) := by
  have hplace := s.samePlace_readHeader b
  have hoffset : (s.readHeader b).offset = s.offset := congrArg Source.size hplace.source
  have hreader : s.readerAt .plain ((s.readHeader b).builder []) =
      (s.readHeader b).readerAt .plain ((s.readHeader b).builder []) :=
    (hplace.readerAt .plain _).symm
  rw [readHeader_builder, hreader]
  apply readsAs_keep_startSpan
  · exact hplace.mode.trans hmode
  · rw [hoffset]
    exact hplace.spanStart
  · exact hplace.excluded

/-- Scanner and reader agree behind every boundary. -/
theorem readsAs_boundary {s : Scanner} (h : s.Spans s.offset) (hmode : s.mode = .plain)
    (b : Boundary) (c : Char) :
    ((s.boundary b).keep c).ReadsAs
      ((s.readerAt .plain ((s.builder s.header).boundary b c)).keep c) := by
  have hcollect := fun (t : Scanner) (ht : t.Spans t.offset) (htmode : t.mode = .plain) =>
    htmode ▸ readsAs_keep_collect c ht (by rw [htmode]; rfl)
  unfold boundary Builder.boundary
  rw [builder_brackets, builder_maybeGeneric]
  by_cases hinert : 0 < s.brackets ∨ (b = .comma ∧ s.maybeGeneric)
  · rw [if_pos hinert, if_pos hinert]
    exact hcollect s h hmode
  · rw [if_neg hinert, if_neg hinert]
    extract_lets s' built
    have hbuilt : built = s'.builder s'.header := rfl
    have hbody : built.body = s'.body := rfl
    rw [hbody, hbuilt]
    cases s'.body with
    | none => exact readsAs_readHeader (s := s') hmode b c
    | some body =>
        dsimp only
        rw [builder_nesting]
        by_cases hleaves : b = .closing ∧ s'.nesting < body.depth
        · have hleft : (s'.builder s'.header).leaveBody body = (s'.leaveBody body).builder [] := by
            simp [Builder.leaveBody, leaveBody, builder, List.map_tail]
          rw [if_pos hleaves, if_pos hleaves, hleft]
          exact readsAs_keep_startSpan c hmode rfl rfl
        · rw [if_neg hleaves, if_neg hleaves]
          exact hcollect s' h hmode

/-! ## Plain text -/

/-- Scanner and reader agree behind an opening bracket. -/
theorem readsAs_openBracket {s : Scanner} (h : s.Spans s.offset) (hmode : s.mode = .plain)
    (c : Char) :
    (s.openBracket.keep c).ReadsAs
      ((s.readerAt .plain ((s.builder s.header).openBracket.collect c)).keep c) := by
  have hcollect := fun (t : Scanner) (ht : t.Spans t.offset) (htmode : t.mode = .plain) =>
    htmode ▸ readsAs_keep_collect c ht (by rw [htmode]; rfl)
  unfold Builder.openBracket openBracket
  rw [builder_body]
  by_cases hbody : s.body.isSome = true
  · rw [if_pos hbody, if_pos hbody]
    exact hcollect s h hmode
  · rw [if_neg hbody, if_neg hbody]
    exact hcollect { s with bracketOpenedAt := _, brackets := s.brackets + 1 } h hmode

/-- Scanner and reader agree behind a closing bracket. -/
theorem readsAs_closeBracket {s : Scanner} (h : s.Spans s.offset) (hmode : s.mode = .plain)
    (c : Char) :
    (s.closeBracket.keep c).ReadsAs
      ((s.readerAt .plain
        (((s.builder s.header).closeBracket s.source.trail).collect c)).keep c) := by
  have htrail : (s.source.trail != .equals) = (s.source.before? s.offset != some '=') := by
    rw [Bool.eq_iff_iff, bne_iff_ne, bne_iff_ne, ne_eq, ne_eq, Source.trail_eq_equals_iff]
    rfl
  have hclosed : (s.builder s.header).closeBracket s.source.trail =
      s.closeBracket.builder s.header := by
    unfold Builder.closeBracket closeBracket
    rw [htrail]
    rfl
  have hcollect := readsAs_keep_collect (s := s.closeBracket) c h
    (by rw [show s.closeBracket.mode = .plain from hmode]; rfl)
  rw [show s.closeBracket.mode = .plain from hmode] at hcollect
  rw [hclosed]
  exact hcollect

/-- A directive line starts with its sign. -/
theorem readsAs_keep_sign {s : Scanner} {regionStart : Nat} (h : s.Spans regionStart) :
    ({ s with mode := .directive s.offset regionStart }.keep '#').ReadsAs
      ((s.readerAt (.directive ['#']) (s.builder (s.gathered regionStart))).keep '#') := by
  have hline : (s.source.push '#').slice s.source.size (s.source.push '#').size = ['#'] := by
    rw [Source.size_push, Source.slice_push_size s.source '#' (Nat.le_refl s.source.size),
      Source.slice_self, List.nil_append]
  have hfits : regionStart ≤ s.offset ∧ s.offset < (s.source.push '#').size := by
    rw [Source.size_push]
    exact ⟨h.stop_le, Nat.lt_succ_self _⟩
  have hregion := readsAs_keep_region (s := { s with mode := .directive s.offset regionStart })
    '#' h rfl hfits
  rw [Mode.view, offset, hline] at hregion
  exact hregion

/-- Scanner and reader agree behind a character of plain text. -/
theorem readsAs_stepPlain {s : Scanner} (h : s.Spans s.offset) (c : Char) :
    ((s.stepPlain c).keep c).ReadsAs
      ((s.readerAt (.nextPlain s.source.trail s.lineBlank c)
        ((s.builder s.header).readPlain s.source.trail s.lineBlank c)).keep c) := by
  unfold stepPlain
  extract_lets s'
  have hcollect := fun (c : Char) (mode : Mode) (hgathers : mode.Gathers = true) =>
    readsAs_keep_collect (s := { s' with mode }) c h hgathers
  split
  · rw [opensVerbatim_eq]
    exact hcollect _ (.string s'.offset s'.source.trail.opensVerbatim) rfl
  · exact hcollect _ (.char s'.offset) rfl
  · have hfits : (s'.source.push '/').before? (s'.source.push '/').size = some '/' := by
      rw [Source.size_push, Source.before?_push]
    exact readsAs_keep_region (s := { s' with mode := .slash }) _ h rfl hfits
  · change ReadsAs (Scanner.keep (if s.lineBlank = true then _ else _) _)
      (Reader.keep (s.readerAt (if s.lineBlank = true then _ else _)
        (if s.lineBlank = true then _ else _)) _)
    by_cases hblank : s.lineBlank = true
    · rw [if_pos hblank, if_pos hblank, if_pos hblank]
      exact readsAs_keep_sign (s := s') h
    · rw [if_neg hblank, if_neg hblank, if_neg hblank]
      exact hcollect _ .plain rfl
  · exact readsAs_boundary (s := s') h rfl .comma _
  · exact readsAs_boundary (s := s') h rfl .semicolon _
  · exact readsAs_boundary (s := s') h rfl .opening _
  · exact readsAs_boundary (s := s') h rfl .closing _
  · exact readsAs_openBracket (s := s') h rfl _
  · exact readsAs_openBracket (s := s') h rfl _
  · exact readsAs_closeBracket (s := s') h rfl _
  · exact readsAs_closeBracket (s := s') h rfl _
  · exact readsAs_keep_collect (s := { s' with maybeGeneric := true }) _ h rfl
  · exact readsAs_keep_collect (s := { s' with maybeGeneric := false }) _ h rfl
  · exact readsAs_keep_collect (s := { s' with maybeGeneric := false }) _ h rfl
  · have hmode : Reader.Mode.nextPlain s.source.trail s.lineBlank c = .plain := by
      simp_all [Reader.Mode.nextPlain]
    have hbuilt : (s.builder s.header).readPlain s.source.trail s.lineBlank c =
        (s.builder s.header).collect c := by
      simp_all [Builder.readPlain]
    rw [hmode, hbuilt]
    exact hcollect _ .plain rfl

/-- Behind a slash that opens no comment, the slash belongs to the header. -/
theorem header_of_slash {s : Scanner} (h : s.Spans (s.offset - 1))
    (hslash : s.source.before? s.source.size = some '/') :
    s.header = s.gathered (s.offset - 1) ++ ['/'] := by
  rcases s.source.empty_or_push with hempty | ⟨front, c, hpush⟩
  · rw [hempty] at hslash
    cases hslash
  · rw [hpush, Source.size_push, Source.before?_push, Option.some_inj] at hslash
    rw [hslash] at hpush
    have hoffset : s.offset = front.size + 1 := by rw [offset, hpush, Source.size_push]
    rw [hoffset, Nat.add_sub_cancel] at h ⊢
    rw [header, gathered, hoffset, hpush,
      front.sliceExcluding_push_size '/' h.start_le h.ranges,
      front.sliceExcluding_push_of_le '/' (Nat.le_refl front.size)]

/-! ## The other modes -/

/-- The reader of a scanner advances in its mode and lets its builder read. -/
theorem advance_readerAt (s : Scanner) (mode : Reader.Mode) (built : Builder) (c : Char) :
    (s.readerAt mode built).advance c =
      s.readerAt (mode.next s.source.trail s.lineBlank c)
        (built.read s.source.trail s.lineBlank c mode) := rfl

/-- Scanner and reader agree behind the character that follows a slash. -/
theorem readsAs_stepSlash {s : Scanner} (h : s.Spans (s.offset - 1))
    (hslash : s.source.before? s.source.size = some '/') (c : Char) :
    ((s.stepSlash c).keep c).ReadsAs
      (((s.readerAt .slash (s.builder (s.gathered (s.offset - 1)))).advance c).keep c) := by
  have hpos : s.offset ≠ 0 := by
    intro hzero
    rw [show s.source.size = 0 from hzero] at hslash
    cases hslash
  unfold stepSlash
  split
  · have hfresh : ((s.source.push '/').size == s.offset - 1 + 2) = true := by
      rw [Source.size_push, beq_iff_eq]
      change s.offset + 1 = _
      omega
    have hregion := readsAs_keep_region (s := { s with mode := .lineComment (s.offset - 1) })
      '/' h rfl (beq_iff_eq.mp hfresh).ge
    rw [Mode.view, hfresh] at hregion
    exact hregion
  · have hsize : (s.source.push '*').size = s.offset - 1 + 2 := by
      rw [Source.size_push]
      change s.offset + 1 = _
      omega
    have hstarred : (decide (s.offset - 1 + 3 ≤ (s.source.push '*').size) &&
        (s.source.push '*').before? (s.source.push '*').size == some '*') = false := by
      rw [hsize, decide_eq_false (by omega), Bool.false_and]
    have hregion := readsAs_keep_region (s := { s with mode := .blockComment (s.offset - 1) })
      '*' h rfl hsize.ge
    rw [Mode.view, hstarred] at hregion
    exact hregion
  · rename_i hcomment hblock
    have hnext : Reader.Mode.slash.next s.source.trail s.lineBlank c =
        .nextPlain s.source.trail s.lineBlank c := by
      rw [Reader.Mode.next, if_neg hcomment, if_neg hblock]
    have hread : (s.builder (s.gathered (s.offset - 1))).read s.source.trail s.lineBlank c .slash =
        (s.builder s.header).readPlain s.source.trail s.lineBlank c := by
      rw [header_of_slash h hslash]
      exact if_neg (not_or.mpr ⟨hcomment, hblock⟩)
    rw [advance_readerAt, hnext, hread]
    exact readsAs_stepPlain (h.mono (Nat.sub_le _ _) (Nat.le_refl _)) c

/-- Scanner and reader agree behind the character that follows a quote in a verbatim string. -/
theorem readsAs_stepVerbatimQuote {s : Scanner} (h : s.Spans s.offset) (openedAt : Nat)
    (c : Char) :
    ((s.stepVerbatimQuote openedAt c).keep c).ReadsAs
      (((s.readerAt .verbatimQuote (s.builder s.header)).advance c).keep c) := by
  unfold stepVerbatimQuote
  split
  · exact readsAs_keep_collect (s := { s with mode := .string openedAt true }) _ h rfl
  · rename_i hquote
    have hnext : Reader.Mode.verbatimQuote.next s.source.trail s.lineBlank c =
        .nextPlain s.source.trail s.lineBlank c := by
      rw [Reader.Mode.next, if_neg hquote]
    rw [advance_readerAt, hnext]
    exact readsAs_stepPlain h c

/-- A character of a literal joins the header. -/
theorem readsAs_literal {s t : Scanner} (h : s.Spans s.offset) (mode : Mode)
    (ht : t = { s with mode }) (hgathers : mode.Gathers = true) {rmode : Reader.Mode} {c : Char}
    (hnext : rmode.next s.source.trail s.lineBlank c = mode.view (s.source.push c))
    (hread : (s.builder s.header).read s.source.trail s.lineBlank c rmode =
      (s.builder s.header).collect c) :
    (t.keep c).ReadsAs (((s.readerAt rmode (s.builder s.header)).advance c).keep c) := by
  rw [advance_readerAt, hnext, hread, ht]
  exact readsAs_keep_collect (s := { s with mode }) c h hgathers

/-- Scanner and reader agree behind a character of a string. -/
theorem readsAs_stepString {s : Scanner} (h : s.Spans s.offset) {openedAt : Nat} {verbatim : Bool}
    (hmode : s.mode = .string openedAt verbatim) (c : Char) :
    ((s.stepString openedAt verbatim c).keep c).ReadsAs
      (((s.readerAt (.string verbatim) (s.builder s.header)).advance c).keep c) := by
  unfold stepString
  split
  · exact readsAs_literal h (.stringEscape openedAt) rfl rfl rfl rfl
  · exact readsAs_literal h .plain rfl rfl rfl rfl
  · exact readsAs_literal h (.verbatimQuote openedAt) rfl rfl rfl rfl
  · refine readsAs_literal h (.string openedAt verbatim) (by rw [← hmode]) rfl ?_ rfl
    cases verbatim <;> simp_all [Reader.Mode.next, Mode.view]

/-- Scanner and reader agree behind a character of a character literal. -/
theorem readsAs_stepChar {s : Scanner} (h : s.Spans s.offset) {openedAt : Nat}
    (hmode : s.mode = .char openedAt) (c : Char) :
    ((s.stepChar openedAt c).keep c).ReadsAs
      (((s.readerAt .char (s.builder s.header)).advance c).keep c) := by
  unfold stepChar
  split
  · exact readsAs_literal h (.charEscape openedAt) rfl rfl rfl rfl
  · exact readsAs_literal h .plain rfl rfl rfl rfl
  · exact readsAs_literal h (.brokenChar openedAt) rfl rfl rfl rfl
  · refine readsAs_literal h (.char openedAt) (by rw [← hmode]) rfl ?_ rfl
    simp_all [Reader.Mode.next, Mode.view]

/-- A character inside a comment or directive leaves the header as it is. -/
theorem readsAs_region {s t : Scanner} {limit : Nat} (h : s.Spans limit) (mode : Mode)
    (ht : t = { s with mode }) {c : Char} (hlimit : mode.limit (s.offset + 1) = limit)
    (hfits : mode.Fits (s.source.push c)) {rmode : Reader.Mode}
    (hnext : rmode.next s.source.trail s.lineBlank c = mode.view (s.source.push c))
    (hread : (s.builder (s.gathered limit)).read s.source.trail s.lineBlank c rmode =
      s.builder (s.gathered limit)) :
    (t.keep c).ReadsAs
      (((s.readerAt rmode (s.builder (s.gathered limit))).advance c).keep c) := by
  rw [advance_readerAt, hnext, hread, ht]
  exact readsAs_keep_region (s := { s with mode }) c h hlimit hfits

/-- Scanner and reader agree behind a character of a line comment.  The reader knows a comment for
documentation by its third character, the scanner by the offset. -/
theorem readsAs_stepLineComment {s : Scanner} {openedAt : Nat} (h : s.Spans openedAt)
    (hmode : s.mode = .lineComment openedAt) (hfits : openedAt + 2 ≤ s.source.size) (c : Char) :
    ((s.stepLineComment openedAt c).keep c).ReadsAs
      (((s.readerAt (.lineComment (s.source.size == openedAt + 2))
        (s.builder (s.gathered openedAt))).advance c).keep c) := by
  have hstay : s = { s with mode := .lineComment openedAt } := by rw [← hmode]
  have hfits' : openedAt + 2 ≤ (s.source.push c).size := by
    rw [Source.size_push]
    exact Nat.le_succ_of_le hfits
  -- A line comment that goes on is no longer fresh.
  have hold : (Mode.lineComment openedAt).view (s.source.push c) = .lineComment false := by
    rw [Mode.view, Source.size_push, beq_eq_false_iff_ne.mpr (by omega)]
  unfold stepLineComment
  split
  · rw [offset]
    by_cases hfresh : s.source.size = openedAt + 2
    · rw [if_pos hfresh]
      refine readsAs_region h (.docComment openedAt) rfl rfl ?_ ?_ rfl
      · rw [Mode.Fits, Source.size_push, hfresh]
      · rw [Mode.view, Source.size_push, hfresh, Source.slice_self, beq_self_eq_true]
        rfl
    · rw [if_neg hfresh, beq_eq_false_iff_ne.mpr hfresh]
      exact readsAs_region h (.lineComment openedAt) hstay rfl hfits' hold.symm rfl
  · exact readsAs_keep_exclude _ h
  · rename_i hslash hbreak
    refine readsAs_region h (.lineComment openedAt) hstay rfl hfits' ?_ rfl
    rw [hold, Reader.Mode.next, if_neg hbreak, if_neg fun h => hslash h.1]

/-- Scanner and reader agree behind a character of a comment for documentation. -/
theorem readsAs_stepDocComment {s : Scanner} {openedAt : Nat} (h : s.Spans openedAt)
    (hmode : s.mode = .docComment openedAt) (hfits : openedAt + 3 ≤ s.source.size) (c : Char) :
    ((s.stepDocComment openedAt c).keep c).ReadsAs
      (((s.readerAt (.docComment (s.source.slice (openedAt + 3) s.source.size))
        (s.builder (s.gathered openedAt))).advance c).keep c) := by
  unfold stepDocComment
  split
  · exact readsAs_keep_exclude (s := { s with
        summary := s.summary ++ Text.trim (s.source.slice (openedAt + 3) s.offset) ++ ['\n'] }) _ h
  · rename_i hbreak
    refine readsAs_region h (.docComment openedAt) (by rw [← hmode]) rfl ?_ ?_ (if_neg hbreak)
    · rw [Mode.Fits, Source.size_push]
      exact Nat.le_succ_of_le hfits
    · rw [Mode.view, Source.size_push, Source.slice_push_size s.source c hfits]
      exact if_neg hbreak

/-- Scanner and reader agree behind a character of a block comment. -/
theorem readsAs_stepBlockComment {s : Scanner} {openedAt : Nat} (h : s.Spans openedAt)
    (hmode : s.mode = .blockComment openedAt) (hfits : openedAt + 2 ≤ s.source.size) (c : Char) :
    ((s.stepBlockComment openedAt c).keep c).ReadsAs
      (((s.readerAt (Mode.view s.source (.blockComment openedAt))
        (s.builder (s.gathered openedAt))).advance c).keep c) := by
  rw [Mode.view]
  generalize hstarred : (decide (openedAt + 3 ≤ s.source.size) &&
    s.source.before? s.source.size == some '*') = starred
  have hcond : (c == '/' && decide (openedAt + 3 ≤ s.offset) &&
      s.source.before? s.offset == some '*') = true ↔ c = '/' ∧ starred = true := by
    rw [Bool.and_assoc, Bool.and_eq_true, beq_iff_eq, ← hstarred]
    rfl
  unfold stepBlockComment
  by_cases hends : c = '/' ∧ starred = true
  · have hnext : (Reader.Mode.blockComment starred).next s.source.trail s.lineBlank c = .plain :=
      if_pos hends
    rw [if_pos (hcond.mpr hends), advance_readerAt, hnext]
    exact readsAs_keep_exclude c h
  · rw [if_neg (hcond.not.mpr hends)]
    refine readsAs_region h (.blockComment openedAt) (by rw [← hmode]) rfl ?_ ?_ rfl
    · rw [Mode.Fits, Source.size_push]
      exact Nat.le_succ_of_le hfits
    · rw [Mode.view, Source.size_push, Source.before?_push, decide_eq_true (by omega),
        Bool.true_and]
      exact if_neg hends

/-- Scanner and reader agree behind a character of a directive line. -/
theorem readsAs_stepDirective {s : Scanner} {lineStart regionStart : Nat} (h : s.Spans regionStart)
    (hmode : s.mode = .directive lineStart regionStart)
    (hfits : regionStart ≤ lineStart ∧ lineStart < s.source.size) (c : Char) :
    ((s.stepDirective lineStart regionStart c).keep c).ReadsAs
      (((s.readerAt (.directive (s.source.slice lineStart s.source.size))
        (s.builder (s.gathered regionStart))).dispatch c).keep c) := by
  unfold stepDirective
  split
  · change ReadsAs _ (Reader.keep (Reader.endDirective _ _) _)
    unfold endDirective Reader.endDirective
    extract_lets line s' conditions
    have hconditions : conditions = s'.conditions := rfl
    rw [hconditions]
    split
    · have hfits' : regionStart < (s.source.push '\n').size := by
        rw [Source.size_push]
        omega
      exact readsAs_keep_region (s := { s' with mode := .skipped regionStart }) _ h rfl hfits'
    · exact readsAs_keep_exclude (s := s') _ h
  · have hadvance : (s.readerAt (.directive (s.source.slice lineStart s.source.size))
        (s.builder (s.gathered regionStart))).dispatch c =
        (s.readerAt (.directive (s.source.slice lineStart s.source.size))
          (s.builder (s.gathered regionStart))).advance c := by
      unfold Reader.dispatch
      split
      · contradiction
      · rfl
    rw [hadvance]
    refine readsAs_region h (.directive lineStart regionStart) (by rw [← hmode]) rfl ?_ ?_ rfl
    · rw [Mode.Fits, Source.size_push]
      exact ⟨hfits.1, Nat.lt_succ_of_lt hfits.2⟩
    · rw [Mode.view, Source.size_push, Source.slice_push_size s.source c hfits.2.le]
      rfl

/-- Scanner and reader agree behind a character of a branch that is left out. -/
theorem readsAs_stepSkipped {s : Scanner} {regionStart : Nat} (h : s.Spans regionStart)
    (hmode : s.mode = .skipped regionStart) (hfits : regionStart < s.source.size) (c : Char) :
    ((s.stepSkipped regionStart c).keep c).ReadsAs
      (((s.readerAt .skipped (s.builder (s.gathered regionStart))).advance c).keep c) := by
  have hgoesOn : ¬ (c = '#' ∧ s.lineBlank = true) → (s.keep c).ReadsAs
      (((s.readerAt .skipped (s.builder (s.gathered regionStart))).advance c).keep c) := by
    intro hsign
    refine readsAs_region h (.skipped regionStart) (by rw [← hmode]) rfl ?_ (if_neg hsign) rfl
    rw [Mode.Fits, Source.size_push]
    exact Nat.lt_succ_of_lt hfits
  unfold stepSkipped
  split
  · by_cases hblank : s.lineBlank = true
    · have hnext : Reader.Mode.skipped.next s.source.trail s.lineBlank '#' = .directive ['#'] :=
        if_pos ⟨rfl, hblank⟩
      rw [if_pos hblank, advance_readerAt, hnext]
      exact readsAs_keep_sign h
    · rw [if_neg hblank]
      exact hgoesOn fun hsign => hblank hsign.2
  · rename_i hsign
    exact hgoesOn fun h => hsign h.1

/-! ## Steps and runs -/

/-- Outside directive lines every character advances the reader. -/
theorem dispatch_readerAt (s : Scanner) {mode : Reader.Mode}
    (hmode : ∀ line, mode ≠ .directive line) (built : Builder) (c : Char) :
    (s.readerAt mode built).dispatch c = (s.readerAt mode built).advance c := by
  unfold Reader.dispatch
  split
  · rename_i line hline
    exact absurd hline (hmode line)
  · rfl

/-- **One character** keeps scanner and reader in agreement. -/
theorem ReadsAs.step {s : Scanner} {r : Reader} (h : s.ReadsAs r) (c : Char) :
    (s.step c).ReadsAs (r.step c) := by
  obtain ⟨hspans, hfits, rfl⟩ := h
  unfold Scanner.step Reader.step dispatch view
  -- The mode decides the rule on both sides, and what the offsets in it promise.
  cases hmode : s.mode <;> rw [hmode] at hspans hfits
  case directive lineStart regionStart => exact readsAs_stepDirective hspans hmode hfits c
  all_goals rw [dispatch_readerAt s (by simp [Mode.view])]
  case plain => exact readsAs_stepPlain hspans c
  case slash => exact readsAs_stepSlash hspans hfits c
  case string openedAt verbatim => exact readsAs_stepString hspans hmode c
  case stringEscape openedAt =>
    exact readsAs_literal hspans (.string openedAt false) rfl rfl rfl rfl
  case verbatimQuote openedAt => exact readsAs_stepVerbatimQuote hspans openedAt c
  case char openedAt => exact readsAs_stepChar hspans hmode c
  case charEscape openedAt => exact readsAs_literal hspans (.char openedAt) rfl rfl rfl rfl
  case brokenChar openedAt =>
    have hstay : s = { s with mode := .brokenChar openedAt } := by rw [← hmode]
    exact readsAs_literal hspans (.brokenChar openedAt) hstay rfl rfl rfl
  case lineComment openedAt => exact readsAs_stepLineComment hspans hmode hfits c
  case docComment openedAt => exact readsAs_stepDocComment hspans hmode hfits c
  case blockComment openedAt => exact readsAs_stepBlockComment hspans hmode hfits c
  case skipped regionStart => exact readsAs_stepSkipped hspans hmode hfits c

/-- **Every text** keeps scanner and reader in agreement. -/
theorem ReadsAs.scan {s : Scanner} {r : Reader} (h : s.ReadsAs r) (t : Text) :
    (s.scan t).ReadsAs (r.scan t) := by
  induction t generalizing s r with
  | nil => exact h
  | cons c t ih => exact ih (h.step c)

/-- Scanner and reader agree before they read anything. -/
theorem readsAs_start (tree : Tree) (base : NodeId) (symbols : Symbols) :
    (Scanner.start tree base symbols).ReadsAs (Reader.start tree base symbols) := by
  refine ⟨⟨Nat.le_refl _, Nat.le_refl _, ?_⟩, trivial, rfl⟩
  intro range hrange
  cases hrange

/-! ## The end of a source -/

/-- Scanner and reader find the same kind of fault at the end. -/
theorem faultKind?_readerAt (s : Scanner) (pending : Text) :
    (s.readerAt (s.mode.view s.source) (s.builder pending)).faultKind? =
      s.fault?.map Fault.kind := by
  have hkind : s.fault?.map Fault.kind =
      (s.openLexeme?.or (s.openBracket?.or s.openBlock?)).map Prod.fst := by
    rw [fault?, Option.map_map]
    rfl
  have hopen : (s.openBracket?.or s.openBlock?).map Prod.fst =
      if 0 < s.brackets then some .unclosedBracket
      else if (s.scopes.map Scope.node).isEmpty then none else some .unclosedBlock := by
    by_cases hbrackets : 0 < s.brackets
    · rw [openBracket?, if_pos hbrackets, if_pos hbrackets]
      rfl
    · rw [openBracket?, if_neg hbrackets, if_neg hbrackets, Option.none_or, openBlock?]
      cases s.scopes <;> rfl
  rw [hkind]
  unfold Reader.faultKind? openLexeme?
  cases s.mode
  case string | stringEscape | char | charEscape | brokenChar | blockComment => rfl
  all_goals exact hopen.symm

/-- A directive line that the end of the source ends is the same for scanner and reader. -/
theorem endDirective_readerAt (s : Scanner) (lineStart regionStart : Nat) (mode : Reader.Mode)
    (pending : Text) :
    (s.readerAt mode (s.builder pending)).endDirective (s.source.slice lineStart s.offset) =
      (s.endDirective lineStart regionStart).readerAt
        ((s.endDirective lineStart regionStart).mode.view
          (s.endDirective lineStart regionStart).source)
        ((s.endDirective lineStart regionStart).builder pending) := by
  unfold Reader.endDirective endDirective
  extract_lets conditions line s'
  have hconditions : conditions = s'.conditions := rfl
  rw [hconditions]
  split <;> rfl

/-- At the end of the source too the reader is the view of the scanner, but for the header. -/
theorem endOfSource_view (s : Scanner) :
    ∃ pending, s.view.endOfSource =
      s.endOfSource.readerAt (s.endOfSource.mode.view s.endOfSource.source)
        (s.endOfSource.builder pending) := by
  refine ⟨s.gathered (s.mode.limit s.offset), ?_⟩
  unfold endOfSource view
  cases hmode : s.mode
  case directive lineStart regionStart =>
    exact endDirective_readerAt s lineStart regionStart _ _
  all_goals
    rw [hmode]
    rfl

end Scanner

namespace Tree

variable (tree : Tree) (base : NodeId) (symbols : Symbols) (t : Text)

/-- A source is read as the reader reads it: tree, symbols and fault come from one scanner at its
end. -/
theorem read_eq_view : ∃ (s : Scanner) (pending : Text),
    tree.read base symbols t =
      { tree := s.tree, symbols := s.conditions.symbols, fault := s.fault? } ∧
    ((Reader.start tree base symbols).scan t).endOfSource =
      s.readerAt (s.mode.view s.source) (s.builder pending) := by
  have hreads := (Scanner.readsAs_start tree base symbols).scan t
  obtain ⟨pending, hend⟩ := ((Scanner.start tree base symbols).scan t).endOfSource_view
  rw [hreads.view_eq] at hend
  exact ⟨_, pending, rfl, hend⟩

/-- The tree that a source gives is the tree that the reader is left with. -/
theorem tree_read :
    (tree.read base symbols t).tree =
      ((Reader.start tree base symbols).scan t).endOfSource.tree := by
  obtain ⟨s, pending, hread, hend⟩ := tree.read_eq_view base symbols t
  rw [hread, hend]
  rfl

/-- The symbols at the end of a source are those that the reader is left with. -/
theorem symbols_read :
    (tree.read base symbols t).symbols =
      ((Reader.start tree base symbols).scan t).endOfSource.conditions.symbols := by
  obtain ⟨s, pending, hread, hend⟩ := tree.read_eq_view base symbols t
  rw [hread, hend]
  rfl

/-- The kind of fault of a source is what the reader leaves open. -/
theorem faultKind_read :
    (tree.read base symbols t).fault.map Fault.kind =
      ((Reader.start tree base symbols).scan t).endOfSource.faultKind? := by
  obtain ⟨s, pending, hread, hend⟩ := tree.read_eq_view base symbols t
  rw [hread, hend, Scanner.faultKind?_readerAt]

end Tree

end DeclAtlas
