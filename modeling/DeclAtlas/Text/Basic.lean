/-!
# Texts

A text is a list of characters, so every offset and length counts characters and a text can be
taken apart by recursion.  String literals stand for texts wherever one is expected.

The operations here are the ones the readers of this library share: cutting a text at a
character or at a pattern, splitting it at separators, trimming and collapsing blanks.
-/

namespace DeclAtlas

/-- A sequence of characters. -/
abbrev Text := List Char

instance : Coe String Text := ⟨String.toList⟩

namespace Text

/-! ## Blanks -/

/-- The characters with the Unicode property `White_Space`. -/
def isBlank (c : Char) : Bool :=
  let n := c.toNat
  (0x09 ≤ n && n ≤ 0x0D) || n == 0x20 || n == 0x85 || n == 0xA0 || n == 0x1680 ||
    (0x2000 ≤ n && n ≤ 0x200A) || n == 0x2028 || n == 0x2029 || n == 0x202F || n == 0x205F ||
    n == 0x3000

/-- The text without its leading blanks. -/
def trimStart (t : Text) : Text :=
  t.dropWhile isBlank

/-- The text without its trailing blanks. -/
def trimEnd (t : Text) : Text :=
  (t.reverse.dropWhile isBlank).reverse

/-- The text without its leading and trailing blanks. -/
def trim (t : Text) : Text :=
  trimEnd (trimStart t)

/-- Whether the text holds nothing but blanks. -/
def isAllBlank (t : Text) : Bool :=
  t.all isBlank

/-! ## Splitting -/

/-- The pieces between the characters that satisfy `p`; there is always at least one piece, and
pieces may be empty. -/
def splitWhere (p : Char → Bool) : Text → List Text
  | [] => [[]]
  | c :: rest =>
    if p c then [] :: splitWhere p rest
    else
      match splitWhere p rest with
      | [] => [[c]]
      | piece :: pieces => (c :: piece) :: pieces

/-- The pieces between the occurrences of one separating character. -/
def splitAtChar (separator : Char) (t : Text) : List Text :=
  splitWhere (· == separator) t

/-- The maximal runs of characters that are not blank. -/
def words (t : Text) : List Text :=
  (splitWhere isBlank t).filter (fun word => !word.isEmpty)

/-- The lines of the text.  A carriage return in front of a line feed belongs to the end of the
line, and there is no empty line behind the last line feed. -/
def lines (t : Text) : List Text :=
  let pieces := splitAtChar '\n' t
  let ended := pieces.dropLast.map fun piece =>
    if piece.getLast? = some '\r' then piece.dropLast else piece
  ended ++ (pieces.drop ended.length).filter fun piece => !piece.isEmpty

/-- The pieces one after another, with the separator between each two. -/
def join (separator : Text) (pieces : List Text) : Text :=
  separator.intercalate pieces

/-- The words of the text with one space between each two. -/
def collapse (t : Text) : Text :=
  join " " (words t)

/-! ## Cutting -/

/-- Cuts the text at its first character that satisfies `p`: what stands before it and what
stands after it. -/
def cutWhere? (p : Char → Bool) : Text → Option (Text × Text)
  | [] => none
  | c :: rest =>
    if p c then some ([], rest)
    else (cutWhere? p rest).map fun (before, after) => (c :: before, after)

/-- A cut is at the first character that satisfies the predicate. -/
theorem eq_of_cutWhere? {p : Char → Bool} {t before after : Text}
    (h : cutWhere? p t = some (before, after)) :
    ∃ c, p c = true ∧ t = before ++ c :: after ∧ ∀ d ∈ before, p d = false := by
  induction t generalizing before after with
  | nil => simp [cutWhere?] at h
  | cons c rest ih =>
    rw [cutWhere?] at h
    split at h
    · rename_i hc
      simp only [Option.some.injEq, Prod.mk.injEq] at h
      obtain ⟨rfl, rfl⟩ := h
      exact ⟨c, hc, rfl, by simp⟩
    · rename_i hc
      obtain ⟨⟨front, back⟩, hcut, heq⟩ := Option.map_eq_some_iff.1 h
      simp only [Prod.mk.injEq] at heq
      obtain ⟨rfl, rfl⟩ := heq
      obtain ⟨d, hd, rfl, hfront⟩ := ih hcut
      refine ⟨d, hd, rfl, ?_⟩
      intro x hx
      rcases List.mem_cons.1 hx with rfl | hx
      · simpa using hc
      · exact hfront x hx

/-- Cuts the text at the first occurrence of a character. -/
def cutAt? (c : Char) (t : Text) : Option (Text × Text) :=
  cutWhere? (· == c) t

/-- Cuts the text at its last character that satisfies `p`. -/
def cutWhereLast? (p : Char → Bool) (t : Text) : Option (Text × Text) :=
  (cutWhere? p t.reverse).map fun (after, before) => (before.reverse, after.reverse)

/-- Cuts the text at the last occurrence of a character. -/
def cutAtLast? (c : Char) (t : Text) : Option (Text × Text) :=
  cutWhereLast? (· == c) t

/-- What follows the given beginning, if the text begins so. -/
def after? : Text → Text → Option Text
  | [], t => some t
  | _ :: _, [] => none
  | a :: beginning, b :: t => if a == b then after? beginning t else none

/-- What follows a beginning is the rest of the text. -/
theorem eq_of_after? {beginning t rest : Text} (h : after? beginning t = some rest) :
    t = beginning ++ rest := by
  fun_induction after? beginning t <;> simp_all

/-- Cuts the text at the first occurrence of a pattern: what stands before it and what stands
after it. -/
def cutOn? (pattern : Text) : Text → Option (Text × Text)
  | [] => if pattern.isEmpty then some ([], []) else none
  | c :: rest =>
    match after? pattern (c :: rest) with
    | some after => some ([], after)
    | none => (cutOn? pattern rest).map fun (before, after) => (c :: before, after)

/-- A cut at a pattern leaves out the pattern only. -/
theorem eq_of_cutOn? {pattern t before after : Text}
    (h : cutOn? pattern t = some (before, after)) : t = before ++ (pattern ++ after) := by
  induction t generalizing before after with
  | nil =>
    rw [cutOn?] at h
    split at h
    · rename_i hp
      simp only [Option.some.injEq, Prod.mk.injEq] at h
      obtain ⟨rfl, rfl⟩ := h
      simpa using hp
    · simp at h
  | cons c rest ih =>
    rw [cutOn?] at h
    split at h
    · rename_i _ tail hp
      simp only [Option.some.injEq, Prod.mk.injEq] at h
      obtain ⟨rfl, rfl⟩ := h
      simpa using eq_of_after? hp
    · obtain ⟨⟨front, back⟩, hcut, heq⟩ := Option.map_eq_some_iff.1 h
      simp only [Prod.mk.injEq] at heq
      obtain ⟨rfl, rfl⟩ := heq
      simp [ih hcut]

/-- Whether the text begins with the given one. -/
def startsWith (t beginning : Text) : Bool :=
  beginning.isPrefixOf t

/-- Whether the text ends with the given one. -/
def endsWith (t ending : Text) : Bool :=
  ending.isSuffixOf t

/-- The text with every occurrence of a character replaced. -/
def replaceChar (c : Char) (replacement : Text) (t : Text) : Text :=
  t.flatMap fun d => if d == c then replacement else [d]

/-- The text without a byte order mark in front. -/
def withoutMark : Text → Text
  | '\uFEFF' :: t => t
  | t => t

/-- Whether two texts are equal up to the case of ASCII letters. -/
def sameIgnoringCase (a b : Text) : Bool :=
  a.map Char.toLower == b.map Char.toLower

/-! ## Sizes and order -/

/-- The number of bytes of the text in UTF-8. -/
def byteSize (t : Text) : Nat :=
  t.foldr (fun c size => c.utf8Size + size) 0

/-- The order of texts by code points, which is also the order of their UTF-8 bytes. -/
def le : Text → Text → Bool
  | [], _ => true
  | _ :: _, [] => false
  | a :: s, b :: t => a.toNat < b.toNat || (a == b && le s t)

/-- The decimal digits of a number. -/
def ofNat (n : Nat) : Text :=
  Nat.toDigits 10 n

/-- The text padded with leading spaces to at least the given length. -/
def padStart (width : Nat) (t : Text) : Text :=
  List.replicate (width - t.length) ' ' ++ t

/-- The text padded with trailing spaces to at least the given length. -/
def padEnd (width : Nat) (t : Text) : Text :=
  t ++ List.replicate (width - t.length) ' '

end Text

end DeclAtlas
