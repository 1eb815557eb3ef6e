import Mathlib
import DeclAtlas.Proofs.Declaration.Header
import DeclAtlas.Proofs.Reader.Refinement

/-!
# Reading what was printed

**Theorem** (`Tree.branch_read_print`): reading printed declarations into an empty tree succeeds,
whatever symbols are defined, and the branch at the root is the forest of the declarations.

The declarations of a block are read one after the other.  Between two of them the reader has
gathered nothing, so its state is a `Block`, which says where declarations go, and a tree.
`block.Plants tree t forest` says that reading `t` there adds the forest to the tree.  Each kind of
declaration plants the elements it declares:

* `Head.reads` opens a container or enum and `reads_closing` closes it.
* `reads_following` reads the names of a field declaration behind the first one, each of which
  takes over what the name before it declares.
* `reads_members` reads the members of an enum, the last of which ends at the closing brace.
* `reads_withBody` reads a body.

`Declarations.plants` puts these together by induction on the declarations.
-/

namespace DeclAtlas

open Text Builder Declaration

/-- The empty text is all blanks. -/
theorem isBlank_of_mem_nil : ∀ c ∈ ([] : Text), isBlank c = true := by simp

/-- A space is all blanks. -/
theorem isBlank_of_mem_space : ∀ c ∈ [' '], isBlank c = true := by simp; decide

/-- A line break is all blanks. -/
theorem isBlank_of_mem_break : ∀ c ∈ ['\n'], isBlank c = true := by simp; decide

/-! ## Blocks -/

/-- The block whose declarations are read. -/
structure Block where
  /-- The node that receives declarations outside all blocks. -/
  base : NodeId
  /-- The number of open braces. -/
  nesting : Nat
  /-- The nodes of the open blocks, the innermost first. -/
  scopes : List NodeId

namespace Block

/-- The node that receives the next declaration. -/
def node (block : Block) : NodeId :=
  block.scopes.headD block.base

/-- A block that opens inside the block. -/
def inside (block : Block) (node : NodeId) : Block :=
  { block with nesting := block.nesting + 1, scopes := node :: block.scopes }

/-- The builder in the block, outside bodies and brackets. -/
def builder (block : Block) (tree : Tree) (pending summary : Text) : Builder :=
  { tree, base := block.base, pending, summary, nesting := block.nesting, scopes := block.scopes }

/-- Reading the text in the block plants the forest, if the tree is ready for it. -/
def Plants (block : Block) (tree : Tree) (t : Text) (forest : Forest) : Prop :=
  tree.Ready block.node forest →
    (block.builder tree [] []).Reads t (block.builder (tree.plant block.node forest) [] [])

/-- In a block nothing is open in which a boundary would not count. -/
theorem isOpen_builder (block : Block) (tree : Tree) (pending summary : Text) :
    (block.builder tree pending summary).IsOpen :=
  ⟨rfl, rfl, rfl⟩

/-- In front of a boundary, the header that has been gathered declares the element. -/
def Announces (block : Block) (tree : Tree) (pending summary : Text) (boundary : Boundary)
    (element : Element) (opensBody : Bool) : Prop :=
  ∃ stated,
    Header.read ((block.builder tree pending summary).context boundary) pending =
      .declaration stated opensBody ∧
    tree.inherit block.node (stated.type.isAbsent && boundary != .opening)
      { stated with summary } = element

variable {block : Block} {tree : Tree} {pending summary : Text} {element : Element}
  {boundary : Boundary} {c : Char} {opensBody : Bool} {f g : Forest}

/-- At a boundary the header is read and its element becomes a node. -/
theorem reads_boundary (hc : Boundary.ofChar? c = some boundary)
    (h : block.Announces tree pending summary boundary element opensBody)
    (hready : tree.Ready block.node (.cons element f g)) :
    (block.builder tree pending summary).Reads [c]
      ({ block.builder (tree.addChild block.node element) [] [] with
          nesting := Scanner.moveNesting block.nesting boundary
          body := if opensBody then
              some { depth := Scanner.moveNesting block.nesting boundary, isInitializer := false }
            else none }.moveScope boundary tree.size) := by
  obtain ⟨stated, hread, hinherit⟩ := h
  have hheader := Builder.readHeader_declaration
    (b := { block.builder tree pending summary with
      nesting := Scanner.moveNesting block.nesting boundary }) hread (hready.declare hinherit)
  have hreads := Builder.reads_boundary (block.isOpen_builder tree pending summary) hc
  exact hreads.of_eq hheader

/-- A comma or semicolon. -/
theorem reads_separator (hc : c = ',' ∨ c = ';')
    (h : ∀ boundary, boundary ≠ .opening →
      block.Announces tree pending summary boundary element false)
    (hready : tree.Ready block.node (.cons element f g)) :
    (block.builder tree pending summary).Reads [c]
      (block.builder (tree.addChild block.node element) [] []) := by
  rcases hc with rfl | rfl
  · exact block.reads_boundary rfl (h .comma (by decide)) hready
  · exact block.reads_boundary rfl (h .semicolon (by decide)) hready

/-- The closing brace of a block with nothing in front of it. -/
theorem reads_closing (block : Block) (tree : Tree) (node : NodeId) :
    ((block.inside node).builder tree [] []).Reads ['\n', '\x7d'] (block.builder tree [] []) := by
  have hbreak : ((block.inside node).builder tree [] []).Reads ['\n']
      ((block.inside node).builder tree ['\n'] []) :=
    reads_inert _ (by simp; decide)
  have hheader := Builder.readHeader_nothing
    (b := { (block.inside node).builder tree ['\n'] [] with nesting := block.nesting })
    (Header.read_blanks (Builder.context _ .closing) isBlank_of_mem_break)
  have hreads := Builder.reads_boundary ((block.inside node).isOpen_builder tree ['\n'] [])
    (show Boundary.ofChar? '\x7d' = some .closing from rfl)
  exact hbreak.append (hreads.of_eq hheader)

end Block

/-! ## Gathering headers -/

namespace Declaration

variable {block : Block} {tree : Tree}

/-- Documentation lines make the summary. -/
theorem reads_docs (block : Block) (tree : Tree) (pending before : Text) (docs : List DocLine) :
    (block.builder tree pending before).Reads (printDocs docs)
      (block.builder tree pending (before ++ summary docs)) := by
  induction docs generalizing before with
  | nil =>
      rw [summary, List.flatMap_nil, List.append_nil]
      exact reads_nil _
  | cons line docs ih =>
      have hrest := ih (before ++ trim line.text ++ ['\n'])
      have hsummary : before ++ summary (line :: docs) =
          before ++ trim line.text ++ ['\n'] ++ summary docs := by
        simp [summary]
      rw [hsummary]
      exact (reads_docLine _ line.single).append hrest

/-- A line break, documentation lines and a text without structure. -/
theorem reads_front (block : Block) (tree : Tree) (docs : List DocLine) {t : Text}
    (ht : ∀ c ∈ t, isInert c = true) :
    (block.builder tree [] []).Reads ('\n' :: (printDocs docs ++ t))
      (block.builder tree ('\n' :: t) (summary docs)) := by
  have hbreak : (block.builder tree [] []).Reads ['\n'] (block.builder tree ['\n'] []) :=
    reads_inert _ (by simp; decide)
  exact hbreak.cons ((reads_docs block tree ['\n'] [] docs).append (reads_inert _ ht))

/-- Word characters are inert. -/
theorem isInert_of_isWordChar {c : Char} (h : isWordChar c = true) : isInert c = true := by
  have hall : structuralChars.all (fun d => !isWordChar d) = true := by decide
  by_contra hinert
  have hmem : c ∈ structuralChars := by simpa [isInert] using hinert
  have hnot := List.all_eq_true.1 hall c hmem
  rw [h] at hnot
  exact absurd hnot (by decide)

/-- Words are inert. -/
theorem Word.isInert_of_mem (w : Word) : ∀ c ∈ w.text, isInert c = true :=
  fun _ hc => isInert_of_isWordChar (w.isWordChar_of_mem hc)

/-- Inert words joined by spaces are inert. -/
theorem isInert_join {words' : List Text} (h : ∀ word ∈ words', ∀ c ∈ word, isInert c = true) :
    ∀ c ∈ join " " words', isInert c = true := by
  intro c hc
  rcases mem_join hc with hc | ⟨word, hword, hc⟩
  · rw [List.mem_singleton.1 hc]
    decide
  · exact h word hword c hc

/-- The keywords and the type of a declaration have no structure. -/
theorem Preamble.isInert_words (p : Preamble) {type : Text} (htype : ∀ c ∈ type, isInert c = true) :
    ∀ c ∈ join " " (p.words ++ [type]), isInert c = true := by
  have hall : Header.leadingWords.all (fun word => word.all isInert) = true := by decide
  refine isInert_join fun word hword => ?_
  rcases List.mem_append.1 hword with hword | hword
  · have hleading := Header.mem_leadingWords p.visibility_ne p.modifiers_mem hword
    exact List.all_eq_true.1 (List.all_eq_true.1 hall word hleading)
  · exact List.mem_singleton.1 hword ▸ htype

/-- A printed variable is inert. -/
theorem Variable.isInert_print (v : Variable) : ∀ c ∈ v.print, isInert c = true := by
  refine List.forall_mem_append.2 ⟨v.name.isInert_of_mem, ?_⟩
  unfold printValue
  split
  · simp
  · rename_i value _
    simp only [List.forall_mem_cons]
    exact ⟨by decide, by decide, by decide, value.isInert_of_mem⟩

/-- The name of a block with its base is inert. -/
theorem Head.isInert_nameWords (head : Head) : ∀ c ∈ join " " head.nameWords, isInert c = true := by
  refine isInert_join ?_
  unfold nameWords
  split
  · exact List.forall_mem_singleton.2 head.name.isInert_of_mem
  · rename_i base _
    simp only [List.forall_mem_cons, List.not_mem_nil, false_imp_iff, implies_true, and_true]
    exact ⟨head.name.isInert_of_mem, by decide, base.isInert_of_mem⟩

/-! ## Heads -/

/-- The head of a container or enum declares it and opens its block. -/
theorem Head.reads (head : Head) {kind : Kind} (hkind : kind.isContainer = true)
    {parent : Option Kind} (hparent : tree.kind? block.node = parent) {f g : Forest}
    (hready : tree.Ready block.node (.cons (head.element parent kind) f g)) :
    (block.builder tree [] []).Reads (head.print kind)
      ((block.inside tree.size).builder
        (tree.addChild block.node (head.element parent kind)) [] []) := by
  subst hparent
  let t := join " " (head.preamble.words ++ [kind.label]) ++ ' ' :: join " " head.nameWords
  have hlabel : kind.label.all isInert = true := by cases kind <;> decide
  have hinert : ∀ c ∈ t ++ [' '], isInert c = true := by
    simp only [t, List.forall_mem_append, List.forall_mem_cons]
    exact ⟨⟨head.preamble.isInert_words (List.all_eq_true.1 hlabel), by decide,
      head.isInert_nameWords⟩, by decide, by simp⟩
  have hfront := reads_front block tree head.preamble.docs hinert
  have hannounces : block.Announces tree (['\n'] ++ t ++ [' ']) (summary head.preamble.docs)
      .opening (head.element (tree.kind? block.node) kind) false :=
    ⟨_, head.read _ isBlank_of_mem_break isBlank_of_mem_space hkind, rfl⟩
  have hopening := block.reads_boundary (c := '\x7b') rfl hannounces hready
  have hprint : head.print kind =
      '\n' :: (printDocs head.preamble.docs ++ (t ++ [' '])) ++ ['\x7b'] := by
    simp [Head.print, t]
  rw [hprint]
  exact hfront.append hopening

/-! ## Fields -/

/-- A header without a type takes over what the one before it declares, unless a block follows. -/
theorem inherits_of_ne_opening {boundary : Boundary} (h : boundary ≠ .opening) :
    (TypeForm.absent.isAbsent && boundary != .opening) = true := by
  simpa [TypeForm.isAbsent] using h

/-- A further name of a field declaration takes over what the name before it declares. -/
theorem Variable.announces_following (v : Variable) {element : Element}
    (hlt : block.node < tree.size) (hexportable : element.exportable = false)
    {boundary : Boundary} (hboundary : boundary ≠ .opening) :
    block.Announces (tree.addChild block.node element) (' ' :: v.print) [] boundary
      (v.following element) false := by
  have hread := v.read ((block.builder (tree.addChild block.node element) (' ' :: v.print)
    []).context boundary) isBlank_of_mem_space isBlank_of_mem_nil hboundary
  rw [List.append_nil] at hread
  refine ⟨_, hread, ?_⟩
  rw [inherits_of_ne_opening hboundary, Tree.inherit_addChild hlt, following, ← hexportable]

/-- The names of a field declaration behind the first one. -/
theorem reads_following (others : List Variable) {pending before : Text} {element : Element}
    (h : ∀ boundary, boundary ≠ .opening →
      block.Announces tree pending before boundary element false)
    (hexportable : element.exportable = false)
    (hready : tree.Ready block.node
      (.ofList (element :: others.map (Variable.following element)))) :
    (block.builder tree pending before).Reads
      (others.flatMap (fun v => ',' :: ' ' :: v.print) ++ [';'])
      (block.builder (tree.plant block.node
        (.ofList (element :: others.map (Variable.following element)))) [] []) := by
  induction others generalizing tree pending before element with
  | nil => exact block.reads_separator (Or.inr rfl) h hready
  | cons v others ih =>
      have hcomma := block.reads_separator (Or.inl rfl) h hready
      have hname : (block.builder (tree.addChild block.node element) [] []).Reads (' ' :: v.print)
          (block.builder (tree.addChild block.node element) (' ' :: v.print) []) :=
        reads_inert _ (List.forall_mem_cons.2 ⟨by decide, v.isInert_print⟩)
      have hrest := ih
        (fun _ hboundary => v.announces_following hready.lt_size hexportable hboundary)
        hexportable hready.rest
      have hprint : (v :: others).flatMap (fun v => ',' :: ' ' :: v.print) ++ [';'] =
          [','] ++ (' ' :: v.print ++
            (others.flatMap (fun v => ',' :: ' ' :: v.print) ++ [';'])) := by
        simp
      rw [hprint]
      exact hcomma.append (hname.append hrest)

/-! ## Members of enums -/

/-- The header of a member.  Whether it takes over what the member before it declares makes no
difference, since members have nothing else of their own either. -/
theorem Member.announces (m : Member) (block : Block)
    (hkind : tree.kind? block.node = some .enumType)
    (hinherit : ∀ m : Member, tree.inherit block.node true m.element = m.element) {after : Text}
    (hafter : ∀ c ∈ after, isBlank c = true) {boundary : Boundary}
    (hboundary : boundary ≠ .opening) :
    block.Announces tree ('\n' :: (m.toVariable.print ++ after)) (summary m.docs) boundary m.element
      false := by
  have hread := m.toVariable.read ((block.builder tree ('\n' :: (m.toVariable.print ++ after))
    (summary m.docs)).context boundary) isBlank_of_mem_break hafter hboundary
  have hparent : ((block.builder tree ('\n' :: (m.toVariable.print ++ after))
    (summary m.docs)).context boundary).parent = some .enumType := hkind
  rw [hparent] at hread
  refine ⟨{ m.element with summary := [] }, hread, ?_⟩
  change tree.inherit block.node (TypeForm.absent.isAbsent && boundary != .opening) m.element = _
  rw [inherits_of_ne_opening hboundary]
  exact hinherit m

/-- The members of an enum and its closing brace. -/
theorem reads_members (block : Block) (members : List Member) {node : Nat}
    (hkind : tree.kind? node = some .enumType)
    (hinherit : ∀ m : Member, tree.inherit node true m.element = m.element)
    (hready : tree.Ready node (.ofList (members.map Member.element))) :
    ((block.inside node).builder tree [] []).Reads
      (join "," (members.map Member.print) ++ ['\n', '\x7d'])
      (block.builder (tree.plant node (.ofList (members.map Member.element))) [] []) := by
  induction members generalizing tree with
  | nil => exact block.reads_closing tree node
  | cons m members ih =>
      cases members with
      | nil =>
          -- the closing brace ends the header of the last member
          have hinert : ∀ c ∈ m.toVariable.print ++ ['\n'], isInert c = true :=
            List.forall_mem_append.2 ⟨m.isInert_print, by simp; decide⟩
          have hfront := reads_front (block.inside node) tree m.docs hinert
          have hannounces : (block.inside node).Announces tree
              ('\n' :: (m.toVariable.print ++ ['\n'])) (summary m.docs) .closing m.element false :=
            m.announces (block.inside node) hkind hinherit isBlank_of_mem_break (by decide)
          have hclosing := Block.reads_boundary (c := '\x7d') rfl hannounces hready
          have hprint : join "," ([m].map Member.print) ++ ['\n', '\x7d'] =
              '\n' :: (printDocs m.docs ++ (m.toVariable.print ++ ['\n'])) ++ ['\x7d'] := by
            rw [List.map_singleton, join_singleton, Member.print]
            simp
          rw [hprint]
          exact hfront.append hclosing
      | cons next members =>
          have hfront := reads_front (block.inside node) tree m.docs m.isInert_print
          have hannounces : ∀ boundary, boundary ≠ .opening → (block.inside node).Announces tree
              ('\n' :: m.toVariable.print) (summary m.docs) boundary m.element false := by
            intro boundary hboundary
            have h := m.announces (block.inside node) hkind hinherit isBlank_of_mem_nil hboundary
            rwa [List.append_nil] at h
          have hcomma := Block.reads_separator (c := ',') (Or.inl rfl) hannounces hready
          have hrest := ih ((Tree.kind?_addChild_of_lt hready.lt_size node m.element).trans hkind)
            (fun next => Tree.inherit_addChild hready.lt_size m.element next.element) hready.rest
          have hprint : join "," ((m :: next :: members).map Member.print) ++ ['\n', '\x7d'] =
              '\n' :: (printDocs m.docs ++ m.toVariable.print) ++ ([','] ++
                (join "," ((next :: members).map Member.print) ++ ['\n', '\x7d'])) := by
            rw [List.map_cons, List.map_cons, join_cons_cons, Member.print]
            simp
          rw [hprint]
          exact hfront.append (hcomma.append hrest)

/-! ## Bodies -/

/-- A header in front of a block that is a body, and the body. -/
theorem reads_withBody (p : Preamble) (type : Word) {name : List Text}
    (hname : ∀ word ∈ name, Header.IsWord word) (hne : name ≠ []) (hcolon : ':' ∉ join " " name)
    (body : BodyText) {element : Element}
    (helement : p.element (tree.kind? block.node) (Header.functionOrProperty (join " " name))
      type.text (join " " name) = element)
    (hready : tree.Ready block.node (.cons element .nil .nil)) :
    (block.builder tree
        (['\n'] ++ (join " " (p.words ++ [type.text]) ++ ' ' :: join " " name) ++ [' '])
        (summary p.docs)).Reads ('\x7b' :: body.text ++ ['\x7d'])
      (block.builder (tree.addChild block.node element) [] []) := by
  subst helement
  have hopening := block.reads_boundary (c := '\x7b') rfl
    ⟨_, read_withBody _ isBlank_of_mem_break isBlank_of_mem_space p type hname hne hcolon rfl, rfl⟩
    hready
  have hchars : ∀ c ∈ body.text, opensRegion c = false := by
    intro c hc
    simpa using List.all_eq_true.1 body.chars c hc
  have hbody := reads_body (b := { (block.inside tree.size).builder (tree.addChild block.node
      (p.element (tree.kind? block.node) (Header.functionOrProperty (join " " name)) type.text
        (join " " name))) [] [] with
      body := some { depth := block.nesting + 1, isInitializer := false } })
    rfl rfl (Nat.succ_pos _) rfl body.balanced hchars
  exact hopening.append hbody

/-- Between the words of a parameter list there are only commas and spaces. -/
theorem mem_parameters {parameters : List Parameter} {c : Char}
    (hc : c ∈ join ", " (parameters.map Parameter.print)) :
    isWordChar c = true ∨ c = ',' ∨ c = ' ' := by
  rcases mem_join hc with hc | ⟨text, htext, hc⟩
  · exact Or.inr (by simpa using hc)
  · obtain ⟨p, -, rfl⟩ := List.mem_map.1 htext
    rcases List.mem_append.1 hc with hc | hc
    · exact Or.inl (p.type.isWordChar_of_mem hc)
    · rcases List.mem_cons.1 hc with rfl | hc
      · exact Or.inr (Or.inr rfl)
      · exact Or.inl (p.name.isWordChar_of_mem hc)

/-- Printed parameters have characters of parameter lists only. -/
theorem isParameterChar_of_mem {parameters : List Parameter} :
    ∀ c ∈ join ", " (parameters.map Parameter.print), isParameterChar c = true := by
  intro c hc
  rcases mem_parameters hc with hc | rfl | rfl
  · have hne : c ≠ '=' := ne_of_isWordChar hc (by decide)
    simp [isParameterChar, isInert_of_isWordChar hc, hne]
  · decide
  · decide

/-- There is no colon in a signature. -/
theorem colon_notMem_signature (name : Word) (parameters : List Parameter) :
    ':' ∉ signature name parameters := by
  intro hmem
  rw [signature, List.mem_append, List.mem_append, List.mem_cons] at hmem
  rcases hmem with (hmem | hmem | hmem) | hmem
  · exact name.notMem (by decide) hmem
  · exact absurd hmem (by decide)
  · rcases mem_parameters hmem with h | h | h <;> exact absurd h (by decide)
  · exact absurd hmem (by decide)

/-! ## Declarations -/

namespace Simple

/-- An enum declares itself and its members. -/
theorem plants_enumeration (head : Head) (members : List Member) :
    block.Plants tree (enumeration head members).print
      ((enumeration head members).forest (tree.kind? block.node)) := by
  intro hready
  have hnone := Tree.children_addChild_size hready.lt_size
    (head.element (tree.kind? block.node) .enumType)
  have hmembers := reads_members block members
    (Tree.kind?_addChild_size tree block.node (head.element (tree.kind? block.node) .enumType))
    (fun m => Tree.inherit_of_children_eq_nil hnone true m.element) hready.below
  rw [print, List.append_assoc]
  exact (head.reads rfl rfl hready).append hmembers

/-- A field declaration declares its names. -/
theorem plants_fields (p : Preamble) (type : Word) (first : Variable) (others : List Variable) :
    block.Plants tree (fields p type first others).print
      ((fields p type first others).forest (tree.kind? block.node)) := by
  intro hready
  let t := join " " (p.words ++ [type.text]) ++ ' ' :: first.print
  have hinert : ∀ c ∈ t, isInert c = true := by
    simp only [t, List.forall_mem_append, List.forall_mem_cons]
    exact ⟨p.isInert_words type.isInert_of_mem, by decide, first.isInert_print⟩
  have hfront := reads_front block tree p.docs hinert
  have hannounces : ∀ boundary, boundary ≠ .opening → block.Announces tree ('\n' :: t)
      (summary p.docs) boundary (firstField p (tree.kind? block.node) type first) false := by
    intro boundary hboundary
    have hread := read_typed ((block.builder tree ('\n' :: t) (summary p.docs)).context boundary)
      isBlank_of_mem_break isBlank_of_mem_nil p type first hboundary
    rw [List.append_nil] at hread
    exact ⟨_, hread, rfl⟩
  have hprint : (fields p type first others).print =
      '\n' :: (printDocs p.docs ++ t) ++
        (others.flatMap (fun v => ',' :: ' ' :: v.print) ++ [';']) := by
    simp [print, t]
  rw [hprint]
  exact hfront.append (reads_following others hannounces rfl hready)

/-- A method is declared by its name with the parameter list. -/
theorem plants_method (p : Preamble) (type name : Word) (parameters : List Parameter)
    (body : BodyText) :
    block.Plants tree (method p type name parameters body).print
      ((method p type name parameters body).forest (tree.kind? block.node)) := by
  intro hready
  let t := join " " (p.words ++ [type.text]) ++ ' ' :: name.text
  let parameterText := '(' :: join ", " (parameters.map Parameter.print) ++ [')']
  have hinert : ∀ c ∈ t, isInert c = true := by
    simp only [t, List.forall_mem_append, List.forall_mem_cons]
    exact ⟨p.isInert_words type.isInert_of_mem, by decide, name.isInert_of_mem⟩
  have hfront := reads_front block tree p.docs hinert
  have hparameters : (block.builder tree ('\n' :: t) (summary p.docs)).Reads parameterText
      (block.builder tree ('\n' :: t ++ parameterText) (summary p.docs)) :=
    reads_parameters (block.isOpen_builder _ _ _) isParameterChar_of_mem
  have hspace : (block.builder tree ('\n' :: t ++ parameterText) (summary p.docs)).Reads [' ']
      (block.builder tree ('\n' :: t ++ parameterText ++ [' ']) (summary p.docs)) :=
    reads_inert _ (by simp; decide)
  have hjoin := join_signatureWords name parameters
  have hfunction : Header.functionOrProperty (signature name parameters) = .function :=
    if_pos (by simp [signature])
  have hbody := reads_withBody p type (fun _ => isWord_of_mem_signatureWords)
    (signatureWords_ne_nil name parameters) (hjoin ▸ colon_notMem_signature name parameters)
    body (by rw [hjoin, hfunction]) hready
  have hgathered : '\n' :: t ++ parameterText ++ [' '] =
      ['\n'] ++ (join " " (p.words ++ [type.text]) ++
        ' ' :: join " " (signatureWords name parameters)) ++ [' '] := by
    rw [hjoin]
    simp [t, parameterText, signature]
  have hprint : (method p type name parameters body).print =
      '\n' :: (printDocs p.docs ++ t) ++ (parameterText ++ ([' '] ++
        ('\x7b' :: body.text ++ ['\x7d']))) := by
    simp [print, t, parameterText, signature]
  rw [hprint]
  rw [← hgathered] at hbody
  exact hfront.append (hparameters.append (hspace.append hbody))

/-- A property is declared by its name. -/
theorem plants_property (p : Preamble) (type name : Word) (body : BodyText) :
    block.Plants tree (property p type name body).print
      ((property p type name body).forest (tree.kind? block.node)) := by
  intro hready
  let t := join " " (p.words ++ [type.text]) ++ ' ' :: name.text ++ [' ']
  have hinert : ∀ c ∈ t, isInert c = true := by
    simp only [t, List.forall_mem_append, List.forall_mem_cons]
    exact ⟨⟨p.isInert_words type.isInert_of_mem, by decide, name.isInert_of_mem⟩, by decide,
      by simp⟩
  have hfront := reads_front block tree p.docs hinert
  have hopening : '(' ∉ name.text := name.notMem (by decide)
  have hproperty : Header.functionOrProperty name.text = .property :=
    if_neg (by simpa using hopening)
  have hcolon : ':' ∉ name.text := name.notMem (by decide)
  have hjoin := join_singleton " " name.text
  have hbody := reads_withBody p type (List.forall_mem_singleton.2 name.isWord) (by simp)
    (by rwa [hjoin]) body (by rw [hjoin, hproperty]) hready
  rw [hjoin] at hbody
  have hprint : (property p type name body).print =
      '\n' :: (printDocs p.docs ++ t) ++ ('\x7b' :: body.text ++ ['\x7d']) := by
    simp [print, t]
  rw [hprint]
  exact hfront.append hbody

/-- A declaration is read as the elements it declares. -/
theorem plants (d : Simple) : block.Plants tree d.print (d.forest (tree.kind? block.node)) := by
  cases d with
  | enumeration head members => exact plants_enumeration head members
  | fields p type first others => exact plants_fields p type first others
  | method p type name parameters body => exact plants_method p type name parameters body
  | property p type name body => exact plants_property p type name body

end Simple

end Declaration

/-- Declarations are read as the forest they declare. -/
theorem Declarations.plants (ds : Declarations) {block : Block} {tree : Tree} {parent : Option Kind}
    (hparent : tree.kind? block.node = parent) :
    block.Plants tree ds.print (ds.forest parent) := by
  intro hready
  induction ds generalizing block tree parent with
  | nil => exact reads_nil _
  | container kind head members rest ihmembers ihrest =>
      have hkind : kind.kind.isContainer = true := by cases kind <;> rfl
      have hhead := head.reads hkind hparent hready
      let opened := tree.addChild block.node (head.element parent kind.kind)
      have hopened : opened.kind? (block.inside tree.size).node = some kind.kind :=
        tree.kind?_addChild_size block.node (head.element parent kind.kind)
      have hmembers := ihmembers hopened hready.below
      let closed := opened.plant tree.size (members.forest (some kind.kind))
      have hclosing := block.reads_closing closed tree.size
      have hclosed : closed.kind? block.node = parent := by
        have hlt := hready.lt_size.trans hready.below.lt_size
        rw [Tree.kind?_plant hready.below.lt_size _ hlt, Tree.kind?_addChild_of_lt hready.lt_size,
          hparent]
      exact ((hhead.append hmembers).append hclosing).append (ihrest hclosed hready.rest)
  | simple d rest ih =>
      obtain ⟨hfirst, hsecond⟩ := hready.of_append
      have hkind : (tree.plant block.node (d.forest parent)).kind? block.node = parent := by
        rw [Tree.kind?_plant hready.lt_size _ hready.lt_size, hparent]
      rw [Declarations.forest, Tree.plant_append]
      subst hparent
      exact (d.plants hfirst).append (ih hkind hsecond)

namespace Tree

/-- **Reading what was printed**: the declarations of a printed list are all there, in order and
one below the other as they were written, and nothing else is. -/
theorem branch_read_print (label : Text) (symbols : Symbols) (ds : Declarations)
    (hdistinct : (ds.forest none).Distinct) :
    ((ofLabel label).read root symbols ds.print).fault = none ∧
      ((ofLabel label).read root symbols ds.print).tree.branch root =
        .node root label none ((ds.forest none).branches 1) := by
  let block : Block := { base := root, nesting := 0, scopes := [] }
  have hreads : (block.builder (ofLabel label) [] []).Reads ds.print
      (block.builder ((ofLabel label).plant root (ds.forest none)) [] []) :=
    ds.plants rfl (ready_ofLabel label hdistinct)
  obtain ⟨hmode, hbuilder⟩ := hreads (Reader.start (ofLabel label) root symbols) rfl rfl
  have hend : ((Reader.start (ofLabel label) root symbols).scan ds.print).endOfSource =
      (Reader.start (ofLabel label) root symbols).scan ds.print := by
    rw [Reader.endOfSource, hmode]
  constructor
  · have hkind := (ofLabel label).faultKind_read root symbols ds.print
    rw [hend, Reader.faultKind?, hmode, hbuilder] at hkind
    exact Option.map_eq_none_iff.1 hkind
  · rw [tree_read, hend, hbuilder]
    exact branch_plant_ofLabel label (ds.forest none)

/-- The nine declarations of the geometry are read back from their printed form. -/
theorem branch_read_print_geometry :
    (Declarations.geometry.forest none).size = 9 ∧ (Declarations.geometry.forest none).Distinct ∧
      ((ofLabel "Doc").read root {} Declarations.geometry.print).fault = none ∧
      ((ofLabel "Doc").read root {} Declarations.geometry.print).tree.branch root =
        .node root "Doc" none ((Declarations.geometry.forest none).branches 1) :=
  ⟨by decide, by decide, branch_read_print "Doc" {} .geometry (by decide)⟩

end Tree

end DeclAtlas
