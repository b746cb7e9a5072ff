import Dialect.Proofs.Template.Trees

/-!
Chapter texts where no chapter is selected.

A chapter text needs the pin of a chapter. Outside of joins nothing is pinned, and a join pins only
elements of the list it iterates, so in any other place a chapter text fails before the source is
asked (`generateAll_unselected`). What becomes of the directive is then settled by what comes first:
a refusal, a field that fails, the chapter text itself, or a list without elements (`Astray`).
Main statement: `chapter_texts`.
-/

namespace Dialect.Template

open Archive (ChapterSource chapterList chapterText chapterVocabulary)

variable {source : ChapterSource} {record id : Value} {pins : Pins} {fault : Error}

/-! ### Rows of atoms -/

/-- The atoms are rendered up to one that fails. None of them up to there is a chapter text. -/
inductive FailsFirst (v : Vocabulary) (record : Value) (pins : Pins) (fault : Error) :
    List ParseNode → Prop where
  | here {n : ParseNode} {rest : List ParseNode} {g : Generated} (other : n.rule ≠ "custom_field")
      (made : generatedOf v record n = .ok g)
      (fails : g.generator.generate record pins = .error fault) :
      FailsFirst v record pins fault (n :: rest)
  | later {n : ParseNode} {rest : List ParseNode} {g : Generated} {text : String}
      (other : n.rule ≠ "custom_field") (made : generatedOf v record n = .ok g)
      (rendered : g.generator.generate record pins = .ok text)
      (later : FailsFirst v record pins fault rest) : FailsFirst v record pins fault (n :: rest)

/-- A failure for want of a selected chapter. -/
def unselected : Error := .iteration (.outsideJoin "chapter_text" chapterList)

/-- Outside of joins nothing is pinned. -/
theorem get?_unpinned : (∅ : Pins).get? chapterList = none := rfl

theorem generate_unselected (free : pins.get? chapterList = none) (story : String) :
    (chapterPiece source story).generator.generate record pins = .error unselected := by
  rw [chapterPiece, Generator.generate, chapterText, free]
  rfl

/-- Where no chapter is pinned, atoms with a chapter text among them fail: for want of a chapter, or
by an atom before the first chapter text. -/
theorem generateAll_unselected (story : FieldPath.resolve ⟨["id"]⟩ record ∅ = .ok id)
    (free : pins.get? chapterList = none) {atoms : List ParseNode}
    (shaped : ∀ n ∈ atoms, ChapterNode n ∨ KnownAtom n) {gs : List Generated}
    (made : generatedAll (chapterVocabulary source) record atoms = .ok gs) :
    ((∃ c ∈ atoms, ChapterNode c) → ∀ text,
      Generator.generateAll record pins (gs.map Generated.generator) ≠ .ok text) ∧
    ∀ fault, Generator.generateAll record pins (gs.map Generated.generator) = .error fault →
      fault = unselected ∨ (∃ path cause, fault = .field path cause) ∧
        FailsFirst (chapterVocabulary source) record pins fault atoms := by
  induction atoms generalizing gs with
  | nil =>
      obtain rfl := Except.ok.inj made
      exact ⟨fun ⟨c, mem, _⟩ => absurd mem List.not_mem_nil, nofun⟩
  | cons n rest ih =>
      rw [generatedAll] at made
      obtain ⟨g, first, made⟩ := bind_eq_ok.mp made
      obtain ⟨gs', others, made⟩ := bind_eq_ok.mp made
      obtain rfl := Except.ok.inj made
      obtain ⟨here, later⟩ := List.forall_mem_cons.mp shaped
      obtain ⟨never, fails⟩ := ih later others
      rw [List.map_cons]
      rcases here with chapter | known
      · rw [generatedOf_chapter chapter story] at first
        obtain rfl := Except.ok.inj first
        have stops := @generate_unselected source record pins free id.render
        constructor
        · intro _ text rendered
          obtain ⟨s, t, impossible, -⟩ := generateAll_cons.mp rendered
          cases stops.symm.trans impossible
        · intro fault failed
          rcases generateAll_cons_error.mp failed with bad | ⟨⟨s, impossible⟩, -⟩
          · exact .inl (Except.error.inj (bad.symm.trans stops))
          · cases stops.symm.trans impossible
      · have other := (known.inert n .self).1
        constructor
        · rintro ⟨c, mem, chapter⟩ text rendered
          obtain ⟨s, t, -, rendered, -⟩ := generateAll_cons.mp rendered
          rcases List.mem_cons.mp mem with rfl | mem
          · exact other chapter.rule
          · exact never ⟨c, mem, chapter⟩ t rendered
        · intro fault failed
          rcases generateAll_cons_error.mp failed with bad | ⟨⟨s, rendered⟩, failed⟩
          · exact .inr ⟨known.fails _ record g first record pins fault bad, .here other first bad⟩
          · rcases fails fault failed with want | ⟨field, failsFirst⟩
            · exact .inl want
            · exact .inr ⟨field, .later other first rendered failsFirst⟩

/-! ### Data -/

theorem generatedOf_data {v : Vocabulary} {n : ParseNode} (rule : n.rule = "data") :
    generatedOf v record n = (generatedAll v record n.children).map Generated.concat := by
  obtain ⟨_, text, start, stop, children⟩ := n
  obtain rfl := rule
  unfold generatedOf
  rfl

theorem generatedOf_join {v : Vocabulary} {n data separator : ParseNode} (rule : n.rule = "join")
    (children : n.children = [data, separator]) :
    generatedOf v record n = generatedOf v record data >>= fun d =>
      generatedOf v record separator >>= fun s => join d s record := by
  obtain ⟨_, text, start, stop, _⟩ := n
  obtain rfl := rule
  obtain rfl := children
  rw [generatedOf]
  rfl

/-- Data is refused only for a flaw in it. -/
theorem data_refused {n : ParseNode} (story : FieldPath.resolve ⟨["id"]⟩ record ∅ = .ok id)
    (data : DataNode n)
    (fails : generatedOf (chapterVocabulary source) record n = .error fault) :
    (∃ refusal, fault = .parse refusal) ∧ Broken n := by
  have row {atoms : List ParseNode} (shaped : ∀ m ∈ atoms, ChapterNode m ∨ KnownAtom m)
      (fails : generatedAll (chapterVocabulary source) record atoms = .error fault) :
      ∃ m ∈ atoms, (∃ refusal, fault = .parse refusal) ∧ Broken m := by
    induction atoms with
    | nil => cases fails
    | cons m rest ih =>
        obtain ⟨here, later⟩ := List.forall_mem_cons.mp shaped
        rw [generatedAll] at fails
        rcases bind_eq_error.mp fails with bad | ⟨g, -, fails⟩
        · rcases here with chapter | known
          · rw [generatedOf_chapter chapter story] at bad
            cases bad
          · obtain ⟨refusal, rfl⟩ := known.refused _ _ _ bad
            exact ⟨m, List.mem_cons_self, ⟨refusal, rfl⟩, known.builds _ _ _ bad⟩
        · rcases bind_eq_error.mp fails with bad | ⟨gs, -, impossible⟩
          · obtain ⟨k, mem, refused⟩ := ih later bad
            exact ⟨k, List.mem_cons_of_mem _ mem, refused⟩
          · cases impossible
  rw [generatedOf_data data.rule] at fails
  obtain ⟨m, mem, refused, broken⟩ := row data.atoms (map_eq_error.mp fails)
  exact ⟨refused, broken.parent mem⟩

/-- Data with a chapter text in it. -/
def Uses (n : ParseNode) : Prop := ∃ c ∈ n.children, ChapterNode c

/-- Where no chapter is pinned, data with a chapter text fails: for want of a chapter, or by what
stands before the first chapter text. -/
theorem generate_unselected_data {n : ParseNode}
    (story : FieldPath.resolve ⟨["id"]⟩ record ∅ = .ok id) (data : DataNode n) {g : Generated}
    (made : generatedOf (chapterVocabulary source) record n = .ok g)
    (free : pins.get? chapterList = none) :
    (Uses n → ∀ text, g.generator.generate record pins ≠ .ok text) ∧
    ∀ fault, g.generator.generate record pins = .error fault →
      fault = unselected ∨ (∃ path cause, fault = .field path cause) ∧
        FailsFirst (chapterVocabulary source) record pins fault n.children := by
  rw [generatedOf_data data.rule] at made
  obtain ⟨gs, atoms, rfl⟩ := map_eq_ok.mp made
  obtain ⟨never, fails⟩ := generateAll_unselected story free data.atoms atoms
  constructor
  · intro uses text rendered
    exact never uses text (generate_concat.mp rendered)
  · intro fault failed
    exact fails fault (generate_concat_error.mp failed)

/-! ### Directives -/

/-- The join iterates the list: no other boundary is reached by its fields, and its separator reads
nothing along the list. -/
inductive Iterates (v : Vocabulary) (record : Value) (n : ParseNode) (list : FieldPath) : Prop where
  | intro {data separator : ParseNode} {d s : Generated} (rule : n.rule = "join")
      (children : n.children = [data, separator]) (made : generatedOf v record data = .ok d)
      (made' : generatedOf v record separator = .ok s)
      (single : (boundaries record (d.requirements ∪ s.requirements)).toList = [list])
      (fixed : ∀ p ∈ s.requirements, ¬ list.segments <+: p.segments)

/-- What becomes of a directive that uses a chapter text where no chapter is selected. -/
inductive Astray (v : Vocabulary) (record : Value) (n : ParseNode) :
    Except Error (Option Recognised) → Prop where
  /-- There is no list to iterate, or a chapter is wanted in vain. -/
  | iteration (cause : IterationFault) : Astray v record n (.error (.iteration cause))
  /-- A literal in it is refused. -/
  | refused (broken : Broken n) : Astray v record n (.ok none)
  /-- Something else fails before the first chapter text: in data by itself, -/
  | data {fault : Error} (rule : n.rule = "data") (first : FailsFirst v record ∅ fault n.children) :
      Astray v record n (.error fault)
  /-- in the separator of a join, which is rendered before the data, -/
  | separator {list : FieldPath} {data separator : ParseNode} {fault : Error}
      (iterates : Iterates v record n list) (children : n.children = [data, separator])
      (first : FailsFirst v record ∅ fault separator.children) : Astray v record n (.error fault)
  /-- or in the data for the first element of a list. -/
  | element {list : FieldPath} {data separator : ParseNode} {fault : Error}
      (iterates : Iterates v record n list) (children : n.children = [data, separator])
      (first : FailsFirst v record (Pins.single list 0) fault data.children) :
      Astray v record n (.error fault)
  /-- The list that is iterated has no elements. -/
  | nothing {list : FieldPath} (span : Nat) (iterates : Iterates v record n list)
      (here : list.resolve record ∅ = .ok (.list [])) : Astray v record n (.ok (some ⟨"", span⟩))

theorem astray_data {n : ParseNode} (story : FieldPath.resolve ⟨["id"]⟩ record ∅ = .ok id)
    (data : DataNode n) (uses : Uses n) (parser : Parser) (span : Nat) :
    Astray (chapterVocabulary source) record n
      (outcome ⟨chapterVocabulary source, parser, false⟩ record span n) := by
  unfold outcome
  cases made : generatedOf (chapterVocabulary source) record n with
  | error fault =>
      obtain ⟨⟨refusal, rfl⟩, broken⟩ := data_refused story data made
      exact .refused broken
  | ok g =>
      dsimp only
      obtain ⟨never, fails⟩ := generate_unselected_data story data made get?_unpinned
      cases rendered : g.generator.generate record ∅ with
      | ok text => exact absurd rendered (never uses text)
      | error fault =>
          rcases fails fault rendered with rfl | ⟨-, first⟩
          · exact .iteration _
          · exact .data data.rule first

/-- Data that fails for the first element of a list is rendered for no other. -/
theorem pieces_error {data : Generator} {list : FieldPath} {k : Nat}
    (first : data.generate record (Pins.single list 0) = .error fault) :
    pieces data record list (List.range (k + 1)) = .error fault := by
  rw [pieces, List.range_succ_eq_map, List.mapM_cons, first]
  rfl

/-- What becomes of a join that uses a chapter text where no chapter is selected: it fails, but is
not refused, or it is empty. -/
inductive JoinAstray (v : Vocabulary) (record : Value) (n : ParseNode) :
    Except Error Generated → Prop where
  | fails {fault : Error} (unrefused : ∀ refusal, fault ≠ .parse refusal)
      (astray : Astray v record n (.error fault)) : JoinAstray v record n (.error fault)
  | empty (astray : ∀ span, Astray v record n (.ok (some ⟨"", span⟩))) :
      JoinAstray v record n (.ok (.constant ""))

/-- A planned join over another list goes astray if one of its parts uses a chapter text. -/
theorem joinAstray_planned {n data separator : ParseNode} {d s : Generated} {list : FieldPath}
    (story : FieldPath.resolve ⟨["id"]⟩ record ∅ = .ok id) (dataNode : DataNode data)
    (separatorNode : DataNode separator) (uses : Uses data ∨ Uses separator)
    (rule : n.rule = "join") (children : n.children = [data, separator])
    (made : generatedOf (chapterVocabulary source) record data = .ok d)
    (made' : generatedOf (chapterVocabulary source) record separator = .ok s)
    (single : (boundaries record (d.requirements ∪ s.requirements)).toList = [list])
    (other : ¬Iterates (chapterVocabulary source) record n chapterList) :
    JoinAstray (chapterVocabulary source) record n (join d s record) := by
  obtain ⟨proper, items, here⟩ := single_boundary_list single
  rw [join_planned single here]
  cases found : s.requirements.toList.find? fun p => p.prefixes.contains list with
  | some p => exact .fails nofun (.iteration _)
  | none =>
      have iterates : Iterates (chapterVocabulary source) record n list :=
        ⟨rule, children, made, made', single, (find?_varying_eq_none proper).mp found⟩
      have aside : chapterList ≠ list := fun same => other (same ▸ iterates)
      dsimp only
      obtain ⟨never', fails'⟩ := generate_unselected_data story separatorNode made' get?_unpinned
      cases glue : s.generator.generate record ∅ with
      | error fault =>
          rcases fails' fault glue with rfl | ⟨⟨path, cause, rfl⟩, first⟩
          · exact .fails nofun (.iteration _)
          · exact .fails nofun (.separator iterates children first)
      | ok text =>
          have uses := uses.resolve_right fun inside => never' inside text glue
          cases items with
          | nil => exact .empty fun span => .nothing span iterates here
          | cons item rest =>
              have free : (Pins.single list 0).get? chapterList = none := by
                rw [FieldPath.get?_single, if_neg aside]
              obtain ⟨never, fails⟩ := generate_unselected_data story dataNode made free
              cases first : d.generator.generate record (Pins.single list 0) with
              | ok text => exact absurd first (never uses text)
              | error fault =>
                  rw [List.length_cons, pieces_error first]
                  rcases fails fault first with rfl | ⟨⟨path, cause, rfl⟩, before⟩
                  · exact .fails nofun (.iteration _)
                  · exact .fails nofun (.element iterates children before)

/-- So does one that cannot be planned. -/
theorem joinAstray {n data separator : ParseNode} {d s : Generated}
    (story : FieldPath.resolve ⟨["id"]⟩ record ∅ = .ok id) (dataNode : DataNode data)
    (separatorNode : DataNode separator) (uses : Uses data ∨ Uses separator)
    (rule : n.rule = "join") (children : n.children = [data, separator])
    (made : generatedOf (chapterVocabulary source) record data = .ok d)
    (made' : generatedOf (chapterVocabulary source) record separator = .ok s)
    (other : ¬Iterates (chapterVocabulary source) record n chapterList) :
    JoinAstray (chapterVocabulary source) record n (join d s record) := by
  cases boundary : singleBoundary record (d.requirements ∪ s.requirements) with
  | error fault =>
      have fails : join d s record = .error fault := bind_eq_error.mpr (.inl boundary)
      rw [fails]
      rcases singleBoundary_eq_error.mp boundary with ⟨x, y, rest, -, rfl⟩ | ⟨-, rfl⟩
      · exact .fails nofun (.iteration _)
      · exact .fails nofun (.iteration _)
  | ok list =>
      exact joinAstray_planned story dataNode separatorNode uses rule children made made'
        (singleBoundary_eq_ok.mp boundary) other

theorem astray_join {n : ParseNode} (story : FieldPath.resolve ⟨["id"]⟩ record ∅ = .ok id)
    (node : JoinNode n) (uses : ∃ part ∈ n.children, Uses part)
    (other : ¬Iterates (chapterVocabulary source) record n chapterList) (parser : Parser)
    (span : Nat) :
    Astray (chapterVocabulary source) record n
      (outcome ⟨chapterVocabulary source, parser, false⟩ record span n) := by
  obtain ⟨data, separator, children, dataNode, separatorNode⟩ := node.parts
  have uses : Uses data ∨ Uses separator := by simpa [children] using uses
  have whole : generatedOf (chapterVocabulary source) record n =
      generatedOf (chapterVocabulary source) record data >>= fun d =>
        generatedOf (chapterVocabulary source) record separator >>= fun s => join d s record :=
    generatedOf_join node.rule children
  unfold outcome
  cases made : generatedOf (chapterVocabulary source) record data with
  | error fault =>
      obtain ⟨⟨refusal, rfl⟩, broken⟩ := data_refused story dataNode made
      rw [whole, made]
      exact .refused (broken.parent (by simp [children]))
  | ok d =>
      cases made' : generatedOf (chapterVocabulary source) record separator with
      | error fault =>
          obtain ⟨⟨refusal, rfl⟩, broken⟩ := data_refused story separatorNode made'
          rw [whole, made, made']
          exact .refused (broken.parent (by simp [children]))
      | ok s =>
          have joined : generatedOf (chapterVocabulary source) record n = join d s record := by
            rw [whole, made, made']
            rfl
          rw [joined]
          have becomes :=
            joinAstray story dataNode separatorNode uses node.rule children made made' other
          generalize join d s record = result at becomes ⊢
          cases becomes with
          | @fails fault unrefused astray =>
              cases fault with
              | parse refusal => exact absurd rfl (unrefused refusal)
              | _ => exact astray
          | empty astray => exact astray span

/-- A chapter text inside of a body is that of data. -/
theorem BodyNode.uses_of_within {n m : ParseNode} (body : BodyNode n) (within : m.Within n)
    (named : m.rule = "chapter_text") :
    (DataNode n ∧ Uses n) ∨ JoinNode n ∧ ∃ part ∈ n.children, Uses part := by
  cases body with
  | data data => exact .inl ⟨data, data.chapter_of_within within named⟩
  | join join =>
      right
      obtain ⟨data, separator, children, dataNode, separatorNode⟩ := join.parts
      refine ⟨join, ?_⟩
      cases within with
      | self =>
          rw [join.rule] at named
          exact absurd named (by decide)
      | @child inner _ mem within =>
          refine ⟨inner, mem, ?_⟩
          rw [children, List.mem_cons, List.mem_singleton] at mem
          rcases mem with rfl | rfl
          · exact dataNode.chapter_of_within within named
          · exact separatorNode.chapter_of_within within named

/-! ### The main result -/

/-- An accepted directive with a chapter text goes astray if it does not iterate the chapters. -/
theorem astray_of_parse {engine : Engine} {text : String} {nodes : List ParseNode}
    (same : engine =
      ⟨chapterVocabulary source, (directives .chapterTexts).parse "directive", false⟩)
    (story : FieldPath.resolve ⟨["id"]⟩ record ∅ = .ok id)
    (accepted : engine.parser text = .ok nodes) :
    ∃ root n, nodes = [root] ∧ Engine.bodyOf? root = some n ∧
      ((∃ m : ParseNode, m.Within n ∧ m.rule = "chapter_text") →
        ¬Iterates (chapterVocabulary source) record n chapterList →
        Astray (chapterVocabulary source) record n (engine.directive record text.toList) ∧
        ∀ fault, engine.directive record text.toList = .error fault →
          engine.render text record = .error fault) := by
  subst same
  obtain ⟨root, body, n, after, rfl, found, opens, one, shaped⟩ := body_of_parse accepted
  refine ⟨root, n, rfl, found, ?_⟩
  rintro ⟨m, within, named⟩ other
  obtain ⟨before, between, -, -, -, begins, -⟩ := opens.parts
  refine ⟨?_, fun fault => render_error begins⟩
  rw [directive_eq rfl opens one]
  rcases shaped.uses_of_within within named with ⟨data, uses⟩ | ⟨join, uses⟩
  · exact astray_data story data uses _ _
  · exact astray_join story join uses other _ _

/-- Chapter texts follow the join and nothing else. With custom fields enabled an engine over any
source treats them as follows, for every record that names its story.

* Where the list of chapters is the only boundary that `.chapters.text` reaches, a join of chapter
  texts with a literal is rendered as the texts that the source has for the positions of the
  chapters, in order, with what the literal denotes between them. If the source lacks some of them,
  rendering fails as the source does for the first.
* A directive that uses a chapter text outside of joins, or in a join that does not iterate the
  chapters, never renders one. It fails for want of a list or of a chapter, unless a literal in it
  is refused, something before the first chapter text fails, or the list that is iterated is
  empty. -/
theorem chapter_texts (source : ChapterSource) (profile : Capabilities) :
    ∃ engine, Engine.withCapabilities (chapterVocabulary source)
        { profile with customFields := true } = .ok engine ∧
      ∀ record id, FieldPath.resolve ⟨["id"]⟩ record ∅ = .ok id →
        (∀ items, chapterList.resolve record ∅ = .ok (.list items) →
          (boundaries record (.single ⟨["chapters", "text"]⟩)).toList = [chapterList] →
          ∀ (q : Query.QuotedLiteral) (t : String),
            (∀ texts, List.Forall₂ (fun i text => source id.render i = .ok text)
                (List.range items.length) texts →
              engine.render (joinDirective q ++ t) record =
                (engine.render t record).map (between q.value texts ++ ·)) ∧
            ∀ i < items.length, (∀ j < i, ∃ text, source id.render j = .ok text) →
              ∀ fault, source id.render i = .error fault → (∀ refusal, fault ≠ .parse refusal) →
                engine.render (joinDirective q ++ t) record = .error fault) ∧
        ∀ text nodes, engine.parser text = .ok nodes →
          ∃ root n, nodes = [root] ∧ Engine.bodyOf? root = some n ∧
            ((∃ m : ParseNode, m.Within n ∧ m.rule = "chapter_text") →
              ¬Iterates (chapterVocabulary source) record n chapterList →
              Astray (chapterVocabulary source) record n (engine.directive record text.toList) ∧
              ∀ fault, engine.directive record text.toList = .error fault →
                engine.render text record = .error fault) := by
  refine ⟨_, withCapabilities_chapters source _, ?_⟩
  intro record id story
  rw [if_pos rfl]
  refine ⟨?_, ?_⟩
  · intro items here single q t
    constructor
    · intro texts given
      exact render_chapters rfl rfl story single here q t rfl given
    · intro i inside earlier fault lacks unrefused
      exact render_chapters_error rfl rfl story single here q t inside earlier lacks unrefused
  · intro text nodes accepted
    exact astray_of_parse rfl story accepted

/-- A story of which the source below holds two chapters. -/
def untitledChapters (n : Nat) : Value :=
  .object [("id", .number (.int 7)), ("chapters", .list (List.replicate n (.object [])))]

theorem chapter_texts_two :
    ∃ engine, Engine.withCapabilities (chapterVocabulary (.ofList [("7", ["One", "Two"])]))
        { Capabilities.none with customFields := true } = .ok engine ∧
      engine.render (joinDirective (.of ", ") ++ ".") (untitledChapters 2) =
        (engine.render "." (untitledChapters 2)).map ("One, Two" ++ ·) ∧
      engine.render (joinDirective (.of ", ") ++ ".") (untitledChapters 3) =
        .error (.vocabulary "no text for chapter 2 of story 7") ∧
      engine.render "\x7bchapter_text\x7d" (untitledChapters 2) = .error unselected := by
  obtain ⟨engine, made, all⟩ := chapter_texts (.ofList [("7", ["One", "Two"])]) .none
  have single (n : Nat) (small : n = 2 ∨ n = 3) :
      (boundaries (untitledChapters n) (.single ⟨["chapters", "text"]⟩)).toList =
        [chapterList] := by
    rcases small with rfl | rfl <;> decide +kernel
  refine ⟨engine, made, ?_, ?_, ?_⟩
  · obtain ⟨joins, -⟩ := all (untitledChapters 2) (.number (.int 7)) rfl
    exact (joins _ rfl (single 2 (.inl rfl)) (.of ", ") ".").1 ["One", "Two"]
      (.cons (by decide +kernel) (.cons (by decide +kernel) .nil))
  · obtain ⟨joins, -⟩ := all (untitledChapters 3) (.number (.int 7)) rfl
    refine (joins _ rfl (single 3 (.inr rfl)) (.of ", ") ".").2 2 (by decide) ?_ _
      (by decide +kernel) nofun
    intro j earlier
    match j, earlier with
    | 0, _ => exact ⟨"One", by decide +kernel⟩
    | 1, _ => exact ⟨"Two", by decide +kernel⟩
  · obtain ⟨-, accepts⟩ := all (untitledChapters 2) (.number (.int 7)) rfl
    -- which engine it is, so that the directive can be read
    obtain rfl := Except.ok.inj (made.symm.trans (withCapabilities_chapters _ _))
    have shape : (((directives .chapterTexts).parse "directive" "\x7bchapter_text\x7d").map
        fun nodes => nodes.map fun root => (Engine.bodyOf? root).map fun n =>
          (n.rule, n.children.map fun c => c.children.map ParseNode.rule)) =
        .ok [some ("data", [["chapter_text"]])] := by
      decide +kernel
    obtain ⟨nodes, parsed, seen⟩ := map_eq_ok.mp shape
    obtain ⟨root, n, rfl, found, astray⟩ := accepts "\x7bchapter_text\x7d" nodes parsed
    simp only [List.map_cons, List.map_nil, found, Option.map_some, List.cons.injEq,
      Option.some.injEq, Prod.mk.injEq, and_true, List.map_eq_singleton_iff] at seen
    obtain ⟨rule, field, children, word, inner, named⟩ := seen
    have uses : ∃ m : ParseNode, m.Within n ∧ m.rule = "chapter_text" :=
      ⟨word, .child (children ▸ List.mem_singleton_self field)
        (.child (inner ▸ List.mem_singleton_self word) .self), named⟩
    have stays : ¬Iterates (chapterVocabulary (.ofList [("7", ["One", "Two"])]))
        (untitledChapters 2) n chapterList := by
      rintro ⟨join, -⟩
      exact absurd (rule.symm.trans join) (by decide)
    exact (astray uses stays).2 _ (by decide +kernel)

end Dialect.Template
