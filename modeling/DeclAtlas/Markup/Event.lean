import DeclAtlas.Markup.Entity

/-!
# Markup events

Markup is read as a sequence of events: runs of text, tags, and passages such as comments that say
nothing.  Reading fails where a passage is not ended or not formed as its beginning demands; an
element that is never closed is no failure.
-/

namespace DeclAtlas.Markup

/-- What stands between the angle brackets of a tag. -/
structure Tag where
  /-- The name of the element. -/
  name : Text
  /-- What follows the name. -/
  attributes : Text
  deriving DecidableEq, Repr

/-- One piece of markup. -/
inductive Event where
  /-- A run of text with entities. -/
  | text (t : Text)
  /-- A run of text without entities. -/
  | verbatim (t : Text)
  /-- A tag that opens an element. -/
  | opening (tag : Tag)
  /-- A tag that closes the element of the name. -/
  | closing (name : Text)
  /-- A tag that stands for an element without content. -/
  | empty (tag : Tag)
  /-- A comment, an instruction or a document type. -/
  | aside
  deriving DecidableEq, Repr

/-- The blanks of markup. -/
def isBlank (c : Char) : Bool :=
  c == ' ' || c == '\t' || c == '\r' || c == '\n'

/-! ## Finding the end of a passage -/

/-- The quote that is open behind a character, if `quote` is the one open in front of it. -/
def nextQuote (quote : Option Char) (c : Char) : Option Char :=
  match quote with
  | none => if c == '"' || c == '\'' then some c else none
  | some mark => if c == mark then none else some mark

/-- Cuts at the first `>` outside quotes; `quote` is the quote that is open. -/
def cutUnquoted? (quote : Option Char) : Text → Option (Text × Text)
  | [] => none
  | c :: rest =>
    if c == '>' && quote.isNone then some ([], rest)
    else
      (cutUnquoted? (nextQuote quote c) rest).map fun (before, after) => (c :: before, after)

/-- Cuts at the first `>` that closes none of the `<` before it; `depth` of these are open. -/
def cutBalanced? (depth : Nat) : Text → Option (Text × Text)
  | [] => none
  | c :: rest =>
    if c == '>' && depth == 0 then some ([], rest)
    else
      let depth := if c == '<' then depth + 1 else if c == '>' then depth - 1 else depth
      (cutBalanced? depth rest).map fun (before, after) => (c :: before, after)

/-- What follows the given beginning, if the text begins so in capital or small letters. -/
def afterFolded? : Text → Text → Option Text
  | [], t => some t
  | _ :: _, [] => none
  | a :: beginning, b :: t => if a.toUpper == b.toUpper then afterFolded? beginning t else none

/-- Cuts at the first `>`, or at the end of the text if there is none. -/
def cutOrEnd (t : Text) : Text × Text :=
  (Text.cutAt? '>' t).getD (t, [])

/-! ## Passages -/

/-- Splits the content of a tag into the name, which ends at the first blank, and the rest. -/
def tagOf (content : Text) : Tag :=
  { name := content.takeWhile (!isBlank ·), attributes := content.dropWhile (!isBlank ·) }

/-- The event of a tag that opens an element; a slash at its end makes it an empty element. -/
def elementOf (content : Text) : Event :=
  match content.reverse with
  | '/' :: reversed => .empty (tagOf reversed.reverse)
  | _ => .opening (tagOf content)

/-- The name in a closing tag: its content without blanks at the end.  Content that is nothing but
blanks is kept as it is and so closes no element. -/
def closingName (content : Text) : Text :=
  if content.all isBlank then content else (content.reverse.dropWhile isBlank).reverse

/-- Reads a passage behind `<!`: a comment, verbatim text or a document type. -/
def readDeclaration? (t : Text) : Option (Event × Text) :=
  match t with
  | '-' :: '-' :: body => (Text.cutOn? "-->" body).map fun (_, rest) => (.aside, rest)
  | '[' :: body => do
    let body ← afterFolded? "CDATA[" body
    let (content, rest) ← Text.cutOn? "]]>" body
    some (.verbatim content, rest)
  | _ => do
    let body ← afterFolded? "DOCTYPE" t
    let (content, rest) ← cutBalanced? 0 body
    if content.all isBlank then none else some (.aside, rest)

/-- Reads an instruction behind `<?`; it ends with a question mark of its own. -/
def readInstruction? (t : Text) : Option (Event × Text) :=
  let (content, rest) := cutOrEnd t
  if 2 ≤ content.length ∧ content.getLast? = some '?' then some (.aside, rest) else none

/-- Reads the passage behind `<`. -/
def readPassage? (t : Text) : Option (Event × Text) :=
  match t with
  | '!' :: t => readDeclaration? t
  | '?' :: t => readInstruction? t
  | '/' :: t =>
    let (content, rest) := cutOrEnd t
    some (.closing (closingName content), rest)
  | t => (cutUnquoted? none t).map fun (content, rest) => (elementOf content, rest)

/-! ## Every passage takes some of the text -/

/-- Behind a cut at a character there is less text. -/
theorem length_of_cutAt? {c : Char} {t before after : Text}
    (h : Text.cutAt? c t = some (before, after)) : after.length < t.length := by
  obtain ⟨d, _, rfl, _⟩ := Text.eq_of_cutWhere? h
  simp only [List.length_append, List.length_cons]
  omega

/-- Behind a cut at a pattern there is no more text. -/
theorem length_of_cutOn? {pattern t before after : Text}
    (h : Text.cutOn? pattern t = some (before, after)) : after.length ≤ t.length := by
  rw [Text.eq_of_cutOn? h]
  simp only [List.length_append]
  omega

/-- Behind a cut at a closing angle bracket there is no more text. -/
theorem length_cutOrEnd (t : Text) : (cutOrEnd t).2.length ≤ t.length := by
  unfold cutOrEnd
  cases h : Text.cutAt? '>' t with
  | none => simp
  | some pair => exact Nat.le_of_lt (length_of_cutAt? h)

/-- Behind a cut outside quotes there is less text. -/
theorem length_of_cutUnquoted? {quote : Option Char} {t before after : Text}
    (h : cutUnquoted? quote t = some (before, after)) : after.length < t.length := by
  induction t generalizing quote before after with
  | nil => simp [cutUnquoted?] at h
  | cons c rest ih =>
    rw [cutUnquoted?] at h
    split at h
    · simp only [Option.some.injEq, Prod.mk.injEq] at h
      simp [← h.2]
    · obtain ⟨pair, hcut, heq⟩ := Option.map_eq_some_iff.1 h
      simp only [Prod.mk.injEq] at heq
      have := ih hcut
      rw [heq.2] at this
      exact Nat.lt_succ_of_lt this

/-- Behind a balanced cut there is less text. -/
theorem length_of_cutBalanced? {depth : Nat} {t before after : Text}
    (h : cutBalanced? depth t = some (before, after)) : after.length < t.length := by
  induction t generalizing depth before after with
  | nil => simp [cutBalanced?] at h
  | cons c rest ih =>
    rw [cutBalanced?] at h
    split at h
    · simp only [Option.some.injEq, Prod.mk.injEq] at h
      simp [← h.2]
    · obtain ⟨pair, hcut, heq⟩ := Option.map_eq_some_iff.1 h
      simp only [Prod.mk.injEq] at heq
      have := ih hcut
      rw [heq.2] at this
      exact Nat.lt_succ_of_lt this

/-- Behind a beginning there is no more text. -/
theorem length_of_afterFolded? {beginning t rest : Text}
    (h : afterFolded? beginning t = some rest) : rest.length ≤ t.length := by
  fun_induction afterFolded? beginning t with
  | case1 t =>
    simp only [Option.some.injEq] at h
    exact Nat.le_of_eq (congrArg List.length h.symm)
  | case2 => simp at h
  | case3 a beginning b t _ ih =>
    have := ih h
    simp only [List.length_cons]
    omega
  | case4 => simp at h

/-- Behind a comment, verbatim text or document type there is no more text. -/
theorem length_of_readDeclaration? {t rest : Text} {event : Event}
    (h : readDeclaration? t = some (event, rest)) : rest.length ≤ t.length := by
  unfold readDeclaration? at h
  split at h
  · obtain ⟨pair, hcut, heq⟩ := Option.map_eq_some_iff.1 h
    simp only [Prod.mk.injEq] at heq
    have := length_of_cutOn? hcut
    rw [heq.2] at this
    simp only [List.length_cons]
    omega
  · simp only [Option.bind_eq_bind, Option.bind_eq_some_iff, Option.some.injEq,
      Prod.mk.injEq] at h
    obtain ⟨body, hbody, ⟨content, tail⟩, hcut, _, rfl⟩ := h
    have h₁ := length_of_afterFolded? hbody
    have h₂ := length_of_cutOn? hcut
    simp only [List.length_cons]
    omega
  · simp only [Option.bind_eq_bind, Option.bind_eq_some_iff] at h
    obtain ⟨body, hbody, ⟨content, tail⟩, hcut, h⟩ := h
    have h₁ := length_of_afterFolded? hbody
    have h₂ := length_of_cutBalanced? hcut
    split at h
    · simp at h
    · simp only [Option.some.injEq, Prod.mk.injEq] at h
      rw [← h.2]
      omega

/-- Behind a passage there is no more text, so that reading events ends. -/
theorem length_of_readPassage? {t rest : Text} {event : Event}
    (h : readPassage? t = some (event, rest)) : rest.length ≤ t.length := by
  unfold readPassage? at h
  split at h
  · have := length_of_readDeclaration? h
    simp only [List.length_cons]
    omega
  · rename_i _ t
    unfold readInstruction? at h
    have := length_cutOrEnd t
    dsimp only at h
    split at h
    · simp only [Option.some.injEq, Prod.mk.injEq] at h
      rw [← h.2]
      simp only [List.length_cons]
      omega
    · simp at h
  · rename_i _ t
    have := length_cutOrEnd t
    simp only [Option.some.injEq, Prod.mk.injEq] at h
    rw [← h.2]
    simp only [List.length_cons]
    omega
  · obtain ⟨pair, hcut, heq⟩ := Option.map_eq_some_iff.1 h
    simp only [Prod.mk.injEq] at heq
    rw [← heq.2]
    exact Nat.le_of_lt (length_of_cutUnquoted? hcut)

/-! ## Reading -/

/-- The event of a run of text, unless it is empty. -/
def textEvent (t : Text) : List Event :=
  if t.isEmpty then [] else [.text t]

/-- The events of markup.  A single `<` at the very end is passed over. -/
def events? (t : Text) : Option (List Event) :=
  match _front : Text.cutAt? '<' t with
  | none => some (textEvent t)
  | some (front, []) => some (textEvent front)
  | some (front, c :: passage) =>
    match _read : readPassage? (c :: passage) with
    | none => none
    | some (event, rest) => (events? rest).map fun events => textEvent front ++ event :: events
termination_by t.length
decreasing_by
  have h₁ := length_of_cutAt? _front
  have h₂ := length_of_readPassage? _read
  omega

/-! ## Attributes -/

/-- What an attribute list gives for a key. -/
inductive Lookup where
  /-- The list is malformed before the key is found. -/
  | malformed
  /-- The list has no such key. -/
  | absent
  /-- The value as it is written. -/
  | found (value : Text)
  deriving DecidableEq, Repr

/-- Reads the part of an attribute behind its key: the equals sign and the quoted value.  Gives the
value and what follows it. -/
def readValue? (t : Text) : Option (Text × Text) :=
  match t.dropWhile isBlank with
  | '=' :: t =>
    match t.dropWhile isBlank with
    | '"' :: t => Text.cutAt? '"' t
    | '\'' :: t => Text.cutAt? '\'' t
    | _ => none
  | _ => none

/-- Dropping characters leaves no more text. -/
theorem length_dropWhile_le (p : Char → Bool) (t : Text) : (t.dropWhile p).length ≤ t.length :=
  (List.dropWhile_sublist p).length_le

/-- Behind a value there is less text, so that a lookup ends. -/
theorem length_of_readValue? {t value rest : Text} (h : readValue? t = some (value, rest)) :
    rest.length < t.length := by
  unfold readValue? at h
  have h₀ := length_dropWhile_le isBlank t
  split at h
  · rename_i _ t₁ h₁
    have h₂ := length_dropWhile_le isBlank t₁
    rw [h₁, List.length_cons] at h₀
    split at h
    · rename_i _ t₂ h₃
      have := length_of_cutAt? h
      rw [h₃, List.length_cons] at h₂
      omega
    · rename_i _ t₂ h₃
      have := length_of_cutAt? h
      rw [h₃, List.length_cons] at h₂
      omega
    · simp at h
  · simp at h

/-- Whether a character ends a key. -/
def endsKey (c : Char) : Bool :=
  c == '=' || isBlank c

/-- Looks a key up in an attribute list.  A key runs to an equals sign or a blank, and its first
character may be anything. -/
def lookup (key : Text) (attributes : Text) : Lookup :=
  match _trimmed : attributes.dropWhile isBlank with
  | [] => .absent
  | first :: t =>
    match _read : readValue? (t.dropWhile (!endsKey ·)) with
    | none => .malformed
    | some (value, rest) =>
      if first :: t.takeWhile (!endsKey ·) = key then .found value else lookup key rest
termination_by attributes.length
decreasing_by
  have h₁ := length_of_readValue? _read
  have h₂ := length_dropWhile_le (!endsKey ·) t
  have h₃ := length_dropWhile_le isBlank attributes
  rw [_trimmed, List.length_cons] at h₃
  omega

end DeclAtlas.Markup
