import Dialect.Proofs.Archive.Lookups

/-!
Warnings about flags in an archive of stories.

A flag that finds no tag is reported, but what a query selects are entries of a dataset. The two
agree: every tag of the index is an entry of the dataset of tags and is carried by some story, so a
flag finds no tag just if it selects nothing. A query therefore warns once for each of its flags
that selects nothing, from left to right, and for nothing else (`evaluate_warns`).
-/

namespace Dialect.Query

/-- The node of a leaf that is a flag. -/
def Leaf.flag? : Leaf → Option ParseNode
  | .flag node => some node
  | .comparison _ _ _ => none

/-- The flags of an expression, from left to right. -/
def Expr.flags (e : Expr) : List ParseNode := e.leaves.filterMap Leaf.flag?

/-- Only flags report anything. -/
theorem Expr.flatMap_diagnostics (engine : Engine) (e : Expr) :
    e.leaves.flatMap (Leaf.diagnostics engine) =
      e.flags.flatMap fun node => (engine.vocabulary.resolveFlag node).diagnostics := by
  rw [Expr.flags]
  induction e.leaves with
  | nil => rfl
  | cons leaf rest ih =>
    rw [List.flatMap_cons, ih]
    cases leaf <;> rfl

end Dialect.Query

namespace Dialect.Archive

open Query

/-- The warning about a flag that selects nothing, in lower case: that the index lacks its category,
or else that nothing matches it. -/
def warning (index : TagIndex) : Option String → String → Diagnostic
  | none, p => .unmatchedPattern (Text.lowercase p)
  | some c, p =>
    if Text.lowercase c ∈ index.categories then
      .unmatchedPattern (Text.lowercase c ++ ":" ++ Text.lowercase p)
    else
      .unknownCategory (Text.lowercase c) index.categories

/-- What a flag may report: nothing if it selects an id, else just the warning about it. -/
inductive Reports (engine : Engine) (index : TagIndex) (node : ParseNode) :
    List Diagnostic → Prop where
  | selecting {category : Option String} {p : String} {s : Selection}
      (flag : IsFlag node category p) (result : (engine.evaluateExpr (.flag node)).result = .ok s)
      (some_id : s.ids engine.dataset ≠ []) : Reports engine index node []
  | degraded {category : Option String} {p : String} {s : Selection}
      (flag : IsFlag node category p) (result : (engine.evaluateExpr (.flag node)).result = .ok s)
      (no_id : s.ids engine.dataset = []) :
      Reports engine index node [warning index category p]

/-- The engine answers queries over the stories of an archive, or over their tags. -/
inductive OverArchive (stories : Dataset) (engine : Engine) : Prop where
  | stories (entries : engine.dataset = stories)
      (words : engine.vocabulary = storyVocabulary (.build stories))
  | tags (entries : engine.dataset = (TagIndex.build stories).tagDataset)
      (words : engine.vocabulary = tagVocabulary (.build stories))

section

variable {stories : Dataset} {node : ParseNode} {category : Option String} {p tag : String}

/-! ### Flags that find no tag -/

/-- A node whose flag can be read is a flag. -/
theorem exists_isFlag {flag : TagIndex.Flag} (read : TagIndex.Flag.ofNode node = .ok flag) :
    ∃ category p, IsFlag node category p := by
  unfold TagIndex.Flag.ofNode at read
  split at read
  · next category pattern children =>
    obtain ⟨p, decoded, -⟩ := map_eq_ok.mp read
    exact ⟨some category.text, p, .qualified children rfl decoded⟩
  · next pattern children =>
    obtain ⟨p, decoded, -⟩ := map_eq_ok.mp read
    exact ⟨none, p, .plain children decoded⟩
  · cases read

/-- Only a flag can be looked for. -/
theorem isFlag_of_finds {index : TagIndex} {found : SortedSet String}
    (finds : index.Finds node found) : ∃ category p, IsFlag node category p := by
  cases read : TagIndex.Flag.ofNode node with
  | ok flag => exact exists_isFlag read
  | error fault =>
    rw [TagIndex.Finds, TagIndex.flagTags, Reported.bind_error (by exact read)] at finds
    cases finds

theorem tagsInCategory?_eq_none {index : TagIndex} {kind pattern : String} :
    index.tagsInCategory? kind pattern = none ↔ kind ∉ index.categories := by
  rw [TagIndex.tagsInCategory?, Option.map_eq_none_iff, TagIndex.categories, SortedMap.mem_keys,
    Option.not_isSome_iff_eq_none]

theorem reportEmpty_diagnostics (term : String) (found : SortedSet String) :
    (TagIndex.reportEmpty term found).diagnostics =
      if found.isEmpty then [.unmatchedPattern term] else [] := by
  unfold TagIndex.reportEmpty
  split <;> rfl

/-- Looking for a flag warns about it just if no tag is found. -/
theorem IsFlag.flagTags_diagnostics (flag : IsFlag node category p) {index : TagIndex}
    {found : SortedSet String} (finds : index.Finds node found) :
    (index.flagTags node).diagnostics =
      if found.isEmpty then [warning index category p] else [] := by
  rw [TagIndex.Finds, flag.flagTags] at finds
  rw [flag.flagTags]
  cases category with
  | none =>
    obtain rfl := Except.ok.inj ((TagIndex.reportEmpty_result _ _).symm.trans finds)
    exact reportEmpty_diagnostics _ _
  | some c =>
    simp only [Option.map_some, TagIndex.select] at finds ⊢
    cases known : index.tagsInCategory? (Text.lowercase c) (Text.lowercase p) with
    | none =>
      rw [known] at finds
      obtain rfl := Except.ok.inj finds
      rw [warning, if_neg (tagsInCategory?_eq_none.mp known)]
      rfl
    | some tags =>
      rw [known] at finds
      obtain rfl := Except.ok.inj ((TagIndex.reportEmpty_result _ _).symm.trans finds)
      have listed : Text.lowercase c ∈ index.categories := by
        by_contra absent
        rw [tagsInCategory?_eq_none.mpr absent] at known
        cases known
      rw [warning, if_pos listed]
      exact reportEmpty_diagnostics _ _

/-! ### Flags that select nothing -/

/-- A tag that answers to some pattern is carried by a story. -/
theorem Answers.carried (answers : Answers stories category p tag) :
    ∃ story, Carries stories story tag := by
  have known : ∃ name, Known stories tag name := by
    cases category with
    | none =>
      obtain ⟨name, known, -⟩ := answers
      exact ⟨name, known⟩
    | some c =>
      obtain ⟨name, last, -⟩ := answers
      exact ⟨name, last.known⟩
  obtain ⟨-, story, v, written, kind, mem, is, -⟩ := known
  exact ⟨story, v, written, kind, mem, is⟩

/-- Ids that stand for a set of tags, an entry at least for each, select nothing just if the set is
empty. -/
theorem ids_ofIds_eq_nil {entries : Dataset} {given : List String} {found : SortedSet String}
    (stands : ∀ tag ∈ found, ∃ id ∈ entries.ids, id ∈ given)
    (comes : ∀ id ∈ given, ∃ tag, tag ∈ found) :
    (Selection.ofIds entries given).ids entries = [] ↔ found.isEmpty := by
  rw [SortedSet.isEmpty, List.isEmpty_iff, List.eq_nil_iff_forall_not_mem,
    List.eq_nil_iff_forall_not_mem]
  constructor
  · intro none tag mem
    obtain ⟨id, listed, is⟩ := stands tag mem
    exact none id (mem_ids_ofIds.mpr ⟨listed, is⟩)
  · intro none id mem
    obtain ⟨tag, mem⟩ := comes id (mem_ids_ofIds.mp mem).2
    exact none tag mem

/-- A set of tags that answer to a flag stands for ids of entries, and for none just if it is
empty. -/
theorem OverArchive.resolveFlag {engine : Engine} (archive : OverArchive stories engine)
    {found : SortedSet String} (finds : (TagIndex.build stories).Finds node found)
    (answer : ∀ tag ∈ found, Answers stories category p tag) :
    ∃ ids, engine.vocabulary.resolveFlag node =
        ⟨.ok ids, ((TagIndex.build stories).flagTags node).diagnostics⟩ ∧
      ((Selection.ofIds engine.dataset ids).ids engine.dataset = [] ↔ found.isEmpty) := by
  cases archive with
  | stories entries words =>
    let given := SortedSet.ofList (found.toList.flatMap (TagIndex.build stories).storiesWith)
    have mem_given {story : String} :
        story ∈ given.toList ↔ ∃ tag ∈ found, Carries stories story tag := by
      simp only [given, ← SortedSet.mem_def, SortedSet.mem_ofList, List.mem_flatMap,
        TagIndex.mem_storiesWith]
    refine ⟨given.toList, ?_, ids_ofIds_eq_nil ?_ fun story mem => ?_⟩
    · rw [words]
      refine (Reported.bind_ok finds _).trans ?_
      simp only [pure, Reported.ok, List.append_nil, given]
    · intro tag mem
      obtain ⟨story, carries⟩ := (answer tag mem).carried
      rw [entries]
      exact ⟨story, carries.mem_ids, mem_given.mpr ⟨tag, mem, carries⟩⟩
    · obtain ⟨tag, mem, -⟩ := mem_given.mp mem
      exact ⟨tag, mem⟩
  | tags entries words =>
    refine ⟨found.toList, ?_, ids_ofIds_eq_nil ?_ fun tag mem => ⟨tag, mem⟩⟩
    · rw [words]
      refine (Reported.bind_ok finds _).trans ?_
      simp only [pure, Reported.ok, List.append_nil]
    · intro tag mem
      rw [entries]
      exact ⟨tag, (TagIndex.consistent_build stories).mem_of_finds finds mem, mem⟩

/-- A flag that is looked for without failing reports as it should. -/
theorem OverArchive.reports {engine : Engine} (archive : OverArchive stories engine)
    (flag : IsFlag node category p) :
    Reports engine (.build stories) node (engine.vocabulary.resolveFlag node).diagnostics := by
  obtain ⟨found, result, finds⟩ := flagTags_finds stories category p
  obtain ⟨ids, resolved, nothing⟩ :=
    archive.resolveFlag (result node flag) fun tag => (finds tag).mp
  have evaluated : (engine.evaluateExpr (.flag node)).result =
      .ok (Selection.ofIds engine.dataset ids) := by
    rw [Engine.evaluateExpr, Reported.bind_ok (by rw [resolved])]
    rfl
  rw [resolved, flag.flagTags_diagnostics (result node flag)]
  split
  · next empty => exact .degraded flag evaluated (nothing.mpr empty)
  · next some_tag => exact .selecting flag evaluated fun none => some_tag (nothing.mp none)

/-- A flag that does not fail is looked for without failing. -/
theorem OverArchive.exists_isFlag {engine : Engine} (archive : OverArchive stories engine)
    (good : ∀ fault, ¬ (Leaf.flag node).FailsWith engine fault) :
    ∃ category p, IsFlag node category p := by
  cases looked : ((TagIndex.build stories).flagTags node).result with
  | ok found => exact isFlag_of_finds looked
  | error fault =>
    refine absurd ?_ (good fault)
    cases archive with
    | stories _ words =>
      rw [Leaf.FailsWith, words]
      exact congrArg Reported.result (Reported.bind_error looked _)
    | tags _ words =>
      rw [Leaf.FailsWith, words]
      exact congrArg Reported.result (Reported.bind_error looked _)

/-! ### Queries -/

/-- A query that succeeds warns, from left to right, once for each of its flags that selects no id:
about a category that the index lacks, and otherwise about a pattern without match. It warns about
nothing else. -/
theorem evaluate_warns {engine : Engine} (archive : OverArchive stories engine) {query : String}
    {ids : List String} (succeeds : (engine.evaluate query).result = .ok ids) :
    ∃ e reports, engine.parse query = .ok e ∧
      List.Forall₂ (Reports engine (.build stories)) e.flags reports ∧
      (engine.evaluate query).diagnostics = reports.flatten := by
  unfold Engine.evaluate at succeeds ⊢
  cases parsed : engine.parse query with
  | error fault =>
    rw [parsed] at succeeds
    cases succeeds
  | ok e =>
    rw [parsed, Reported.bind_ok rfl] at succeeds
    rw [Reported.bind_ok rfl]
    cases evaluateExpr_agrees engine e with
    | failed _ _ _ fault _ _ _ result _ =>
      rw [Reported.bind_error result] at succeeds
      cases succeeds
    | selected s result good reported _ =>
      refine ⟨e, e.flags.map fun node => (engine.vocabulary.resolveFlag node).diagnostics, rfl,
        ?_, ?_⟩
      · rw [List.forall₂_map_right_iff, List.forall₂_same]
        intro node mem
        obtain ⟨leaf, listed, is⟩ := List.mem_filterMap.mp mem
        cases leaf with
        | comparison _ _ _ => cases is
        | flag _ =>
          obtain rfl := Option.some.inj is
          obtain ⟨category, p, flag⟩ := archive.exists_isFlag (good _ listed)
          exact archive.reports flag
      · rw [Reported.bind_ok result, ← List.flatMap_def, ← Expr.flatMap_diagnostics, ← reported]
        exact List.append_nil _

/-- Of three flags the first selects something, the second asks for a category that no tag has, and
nothing matches the third. -/
theorem evaluate_warns_renamed :
    OverArchive renamed (storyEngine renamed) ∧
      ((storyEngine renamed).evaluate "comedy | Series:foo | genre:\"Comedy\"").result =
        .ok ["1", "2"] ∧
      ∃ e reports,
        (storyEngine renamed).parse "comedy | Series:foo | genre:\"Comedy\"" = .ok e ∧
        List.Forall₂ (Reports (storyEngine renamed) (.build renamed)) e.flags reports ∧
        reports.flatten =
          [.unknownCategory "series" ["genre"], .unmatchedPattern "genre:comedy"] := by
  have archive : OverArchive renamed (storyEngine renamed) := .stories rfl rfl
  have succeeds : (storyEngine renamed).Selects
      "comedy | Series:foo | genre:\"Comedy\"" ["1", "2"] := by decide +kernel
  have warns : ((storyEngine renamed).evaluate
      "comedy | Series:foo | genre:\"Comedy\"").diagnostics =
        [.unknownCategory "series" ["genre"], .unmatchedPattern "genre:comedy"] := by
    decide +kernel
  obtain ⟨e, reports, parsed, reported, whole⟩ := evaluate_warns archive succeeds
  exact ⟨archive, succeeds, e, reports, parsed, reported, whole.symm.trans warns⟩

end

end Dialect.Archive
