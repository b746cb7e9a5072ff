import Dialect.Proofs.Archive.Flags

/-!
The look-ups of a tag index fit together.

An index keeps four look-ups that are written in different ways: the stories of a tag and the tags
of a name only grow, while the name that a tag has under a type and the record of a tag are
replaced. A single addition keeps them consistent (`TagIndex.Consistent.add`), so they are after any
number of them. Main statement: `lookups_agree`.
-/

namespace Dialect.Archive

namespace TagIndex

variable {index : TagIndex} {t : Tag} {story tag name kind : String}

/-! ### What an addition changes -/

/-- An addition makes the tag known by one more name. -/
theorem named_add :
    (index.add (story, t)).Named name tag ↔ name = t.name ∧ tag = t.id ∨ index.Named name tag := by
  simp only [Named, add, SortedMap.get?_alter]
  by_cases same : name = t.name
  · subst same
    cases index.byName.get? t.name <;> simp
  · simp [same]

/-- An addition replaces the name that the tag has under its type, and no other. -/
theorem typed_add :
    (index.add (story, t)).Typed kind tag name ↔
      if kind = t.kind ∧ tag = t.id then name = t.name else index.Typed kind tag name := by
  simp only [Typed, add, SortedMap.get?_alter]
  by_cases same : kind = t.kind
  · subst same
    by_cases here : tag = t.id
    · simp [here, SortedMap.get?_insert, eq_comm]
    · cases index.byType.get? t.kind <;> simp [here, SortedMap.get?_insert]
  · simp [same]

/-! ### The invariant -/

/-- The look-ups of the index fit together. -/
structure Consistent (index : TagIndex) : Prop where
  /-- The tags with a record are those with stories. -/
  carried (tag : String) : tag ∈ index.tags.keys ↔ tag ∈ index.storiesByTag.keys
  /-- They are those that some name finds. -/
  named (tag : String) : tag ∈ index.tags.keys ↔ ∃ name, index.Named name tag
  /-- They are those that some type has. -/
  typed (tag : String) : tag ∈ index.tags.keys ↔ ∃ kind name, index.Typed kind tag name
  /-- The name that a tag has under a type finds the tag. -/
  named_of_typed (kind tag name : String) : index.Typed kind tag name → index.Named name tag
  /-- No type is without tags. -/
  types_inhabited (kind : String) (bucket : SortedMap String String) :
    index.byType.get? kind = some bucket → ∃ tag, tag ∈ bucket.keys
  /-- No name is without tags. -/
  names_inhabited (name : String) (ids : SortedSet String) :
    index.byName.get? name = some ids → ∃ tag, tag ∈ ids
  /-- No tag is without stories. -/
  stories_inhabited (tag : String) (ids : SortedSet String) :
    index.storiesByTag.get? tag = some ids → ∃ story, story ∈ ids

theorem consistent_empty : Consistent {} := by
  constructor <;> simp [SortedMap.mem_keys, Named, Typed]

theorem Consistent.add (consistent : index.Consistent) (o : String × Tag) :
    (index.add o).Consistent := by
  obtain ⟨story, t⟩ := o
  constructor
  case carried =>
    intro tag
    exact SortedMap.mem_keys_insert.trans
      ((or_congr_right (consistent.carried tag)).trans SortedMap.mem_keys_insert.symm)
  case named =>
    intro tag
    refine SortedMap.mem_keys_insert.trans ?_
    simp only [named_add, consistent.named, exists_or, exists_and_right, exists_eq, true_and]
  case typed =>
    intro tag
    refine SortedMap.mem_keys_insert.trans ?_
    simp only [typed_add]
    constructor
    · rintro (rfl | known)
      · exact ⟨t.kind, t.name, by simp⟩
      · obtain ⟨kind, name, typed⟩ := (consistent.typed tag).mp known
        by_cases here : kind = t.kind ∧ tag = t.id
        · exact ⟨kind, t.name, by simp [here]⟩
        · exact ⟨kind, name, by simpa [here] using typed⟩
    · rintro ⟨kind, name, typed⟩
      split at typed
      · next here => exact .inl here.2
      · exact .inr ((consistent.typed tag).mpr ⟨kind, name, typed⟩)
  case named_of_typed =>
    intro kind tag name typed
    rw [typed_add] at typed
    rw [named_add]
    split at typed
    · next here => exact .inl ⟨typed, here.2⟩
    · exact .inr (consistent.named_of_typed kind tag name typed)
  case types_inhabited =>
    exact SortedMap.forall_alter consistent.types_inhabited
      ⟨t.id, SortedMap.mem_keys_insert.mpr (.inl rfl)⟩
  case names_inhabited =>
    exact SortedMap.forall_alter consistent.names_inhabited
      ⟨t.id, SortedSet.mem_insert.mpr (.inl rfl)⟩
  case stories_inhabited =>
    exact SortedMap.forall_alter consistent.stories_inhabited
      ⟨story, SortedSet.mem_insert.mpr (.inl rfl)⟩

theorem Consistent.foldl_add (consistent : index.Consistent) (more : List (String × Tag)) :
    (more.foldl TagIndex.add index).Consistent := by
  induction more generalizing index with
  | nil => exact consistent
  | cons o more ih => exact ih (consistent.add o)

theorem consistent_build (stories : Dataset) : (build stories).Consistent :=
  consistent_empty.foldl_add (occurrences stories)

/-! ### What an index of stories holds -/

variable {stories : Dataset}

/-- Under a tag stand the stories that list it. -/
theorem get?_storiesByTag :
    (∃ ids, (build stories).storiesByTag.get? tag = some ids ∧ story ∈ ids) ↔
      Carries stories story tag := by
  rw [← mem_storiesWith, storiesWith]
  cases found : (build stories).storiesByTag.get? tag <;> simp [SortedSet.mem_def]

/-- The record of a tag is the last value that the stories list as this tag. -/
theorem get?_tags {v : Value} :
    (build stories).tags.get? tag = some v ↔
      ∃ story, Last (fun entry => ∃ name kind, IsTag entry.2 tag name kind) (listed stories)
        (story, v) := by
  have means (v : Value) :
      (∃ name kind, IsTag v tag name kind) ↔ ∃ t, Tag.ofValue? v = some t ∧ t.id = tag := by
    simp only [ofValue?_eq_some]
    constructor
    · rintro ⟨name, kind, is⟩
      exact ⟨⟨tag, _, _, v⟩, ⟨name, kind, is, rfl, rfl, rfl⟩, rfl⟩
    · rintro ⟨t, ⟨name, kind, is, -⟩, rfl⟩
      exact ⟨name, kind, is⟩
  rw [(holds_build stories).records]
  simp only [Prod.exists, last_occurrences means]
  constructor
  · rintro ⟨story, t, ⟨v, last, read⟩, rfl⟩
    obtain ⟨-, -, -, -, -, rfl⟩ := ofValue?_eq_some.mp read
    exact ⟨story, last⟩
  · rintro ⟨story, last⟩
    obtain ⟨name, kind, is⟩ := last.holds
    exact ⟨story, ⟨tag, _, _, v⟩,
      ⟨v, last, ofValue?_eq_some.mpr ⟨name, kind, is, rfl, rfl, rfl⟩⟩, rfl⟩

/-! ### What flags resolve to -/

/-- A name that counts for a flag with a category counts for the flag without it. -/
theorem Consistent.named_of_called (consistent : index.Consistent) {category : Option String}
    (called : index.Called category tag name) : index.Named name tag := by
  cases category with
  | none => exact called
  | some kind => exact consistent.named_of_typed kind tag name called

/-- What a node finds is what its flag selects. -/
theorem Finds.exists_flag {node : ParseNode} {found : SortedSet String}
    (finds : index.Finds node found) :
    ∃ flag, Flag.ofNode node = .ok flag ∧ ∀ tag, tag ∈ found ↔
      ∃ name, index.Called flag.category tag name ∧ flag.pattern.toList <:+: name.toList := by
  rw [Finds, flagTags, result_bind_eq_ok] at finds
  obtain ⟨flag, read, selected⟩ := finds
  obtain ⟨found', selected', mem⟩ := index.select_finds flag
  obtain rfl := Except.ok.inj (selected.symm.trans selected')
  exact ⟨flag, read, mem⟩

/-- Whatever a flag finds is a tag of the index. -/
theorem Consistent.mem_of_finds (consistent : index.Consistent) {node : ParseNode}
    {found : SortedSet String} (finds : index.Finds node found) (mem : tag ∈ found) :
    tag ∈ index.tagDataset.ids := by
  obtain ⟨flag, -, means⟩ := finds.exists_flag
  obtain ⟨name, called, -⟩ := (means tag).mp mem
  exact (consistent.named tag).mpr ⟨name, consistent.named_of_called called⟩

/-- A category only narrows what a pattern finds. -/
theorem Consistent.narrows (consistent : index.Consistent) {within plain : ParseNode} {c p : String}
    (flag : IsFlag within (some c) p) (flag' : IsFlag plain none p)
    {inside found : SortedSet String} (finds : index.Finds within inside)
    (finds' : index.Finds plain found) (mem : tag ∈ inside) : tag ∈ found := by
  obtain ⟨_, read, means⟩ := finds.exists_flag
  obtain ⟨_, read', means'⟩ := finds'.exists_flag
  obtain rfl := Except.ok.inj (flag.ofNode.symm.trans read)
  obtain rfl := Except.ok.inj (flag'.ofNode.symm.trans read')
  obtain ⟨name, called, occurs⟩ := (means tag).mp mem
  exact (means' tag).mpr ⟨name, consistent.named_of_called called, occurs⟩

end TagIndex

section Vocabularies

variable {index : TagIndex} {node : ParseNode} {ids : List String}

/-- A flag over tags resolves to what it finds. -/
theorem resolveFlag_tags :
    ((tagVocabulary index).resolveFlag node).result = .ok ids ↔
      ∃ found, index.Finds node found ∧ found.toList = ids := by
  refine result_bind_eq_ok.trans (exists_congr fun found => and_congr_right fun _ => ?_)
  exact ⟨fun same => Except.ok.inj same, fun same => congrArg Except.ok same⟩

/-- A flag over stories resolves to the stories of what it finds. -/
theorem mem_resolveFlag {id : String}
    (resolved : ((storyVocabulary index).resolveFlag node).result = .ok ids) (mem : id ∈ ids) :
    ∃ tag, id ∈ index.storiesWith tag := by
  obtain ⟨found, -, same⟩ := result_bind_eq_ok.mp resolved
  obtain rfl := Except.ok.inj same
  rw [← SortedSet.mem_def, SortedSet.mem_ofList, List.mem_flatMap] at mem
  obtain ⟨tag, -, mem⟩ := mem
  exact ⟨tag, mem⟩

/-- Over the tags, a flag selects what it finds. -/
theorem selects_tags (consistent : index.Consistent) {engine : Query.Engine}
    (entries : engine.dataset = index.tagDataset) (words : engine.vocabulary = tagVocabulary index)
    {text : String} (parsed : engine.parse text = .ok (.flag node)) {found : SortedSet String}
    (finds : index.Finds node found) :
    ∃ ids, engine.Selects text ids ∧ ∀ id, id ∈ ids ↔ id ∈ found := by
  have resolved := resolveFlag_tags.mpr ⟨found, finds, rfl⟩
  refine ⟨_, (Query.Engine.selects_iff parsed).mpr
    ⟨.ofIds engine.dataset found.toList, ?_, rfl⟩, ?_⟩
  · rw [Query.Engine.evaluateExpr, Reported.bind_ok (by rw [words]; exact resolved)]
    rfl
  · intro id
    rw [mem_ids_ofIds, entries]
    exact ⟨And.right, fun mem => ⟨consistent.mem_of_finds finds mem, mem⟩⟩

end Vocabularies

/-! ### The main result -/

/-- The look-ups of an index of stories fit together. Under a tag stand just the stories whose list
has it, and as its record the last value that is listed as this tag. So a flag over the stories
resolves to ids of stories, a flag over the tags to ids of tags, and a tag that is selected by a
pattern within a category is selected by the pattern alone, in whatever form the flags are
written. -/
theorem lookups_agree (stories : Dataset) :
    (TagIndex.build stories).Consistent ∧
    (∀ tag story : String,
      (∃ ids, (TagIndex.build stories).storiesByTag.get? tag = some ids ∧ story ∈ ids) ↔
        ∃ record, stories.get? story = some record ∧
          ∃ v ∈ tagList record, ∃ name kind, IsTag v tag name kind) ∧
    (∀ (tag : String) (v : Value), (TagIndex.build stories).tags.get? tag = some v ↔
      ∃ story, Last (fun entry => ∃ name kind, IsTag entry.2 tag name kind) (listed stories)
        (story, v)) ∧
    (∀ (node : ParseNode) (ids : List String),
      ((storyVocabulary (.build stories)).resolveFlag node).result = .ok ids →
        ∀ id ∈ ids, id ∈ stories.ids) ∧
    (∀ (node : ParseNode) (ids : List String),
      ((tagVocabulary (.build stories)).resolveFlag node).result = .ok ids →
        ∀ id ∈ ids, id ∈ (TagIndex.build stories).tagDataset.ids) ∧
    (∀ (c p : String) (within plain : ParseNode), IsFlag within (some c) p → IsFlag plain none p →
      ∃ inside found, ((tagVocabulary (.build stories)).resolveFlag within).result = .ok inside ∧
        ((tagVocabulary (.build stories)).resolveFlag plain).result = .ok found ∧
        ∀ id ∈ inside, id ∈ found) ∧
    (∀ (capabilities : Capabilities) (engine : Query.Engine), capabilities.flags = true →
      Query.Engine.withCapabilities (TagIndex.build stories).tagDataset
        (tagVocabulary (.build stories)) capabilities = .ok engine →
      ∀ c p within plain : String, FlagText within (some c) p → FlagText plain none p →
        ∃ inside found, engine.Selects within inside ∧ engine.Selects plain found ∧
          ∀ id ∈ inside, id ∈ found) := by
  have consistent := TagIndex.consistent_build stories
  refine ⟨consistent, ?_, fun tag v => TagIndex.get?_tags, ?_, ?_, ?_, ?_⟩
  · intro tag story
    rw [TagIndex.get?_storiesByTag, carries_iff]
  · intro node ids resolved id mem
    obtain ⟨tag, mem⟩ := mem_resolveFlag resolved mem
    exact (TagIndex.mem_storiesWith.mp mem).mem_ids
  · intro node ids resolved id mem
    obtain ⟨found, finds, rfl⟩ := resolveFlag_tags.mp resolved
    exact consistent.mem_of_finds finds mem
  · intro c p within plain flag flag'
    obtain ⟨inside, finds, -⟩ := flagTags_finds stories (some c) p
    obtain ⟨found, finds', -⟩ := flagTags_finds stories none p
    refine ⟨_, _, resolveFlag_tags.mpr ⟨inside, finds _ flag, rfl⟩,
      resolveFlag_tags.mpr ⟨found, finds' _ flag', rfl⟩, ?_⟩
    intro id mem
    exact consistent.narrows flag flag' (finds _ flag) (finds' _ flag') mem
  · intro capabilities engine flags made c p within plain written written'
    have serves : (Query.Variant.mk false capabilities.flags capabilities.features).Serves
        (tagVocabulary (.build stories)) := ⟨_, rfl⟩
    have known := Query.parser_of_made serves made
    obtain ⟨node, parsed, flag⟩ := written.parse (congrArg Query.Engine.parser known) flags
    obtain ⟨node', parsed', flag'⟩ := written'.parse (congrArg Query.Engine.parser known) flags
    subst known
    obtain ⟨inside, finds, -⟩ := flagTags_finds stories (some c) p
    obtain ⟨found, finds', -⟩ := flagTags_finds stories none p
    obtain ⟨ids, selects, means⟩ := selects_tags consistent rfl rfl parsed (finds _ flag)
    obtain ⟨ids', selects', means'⟩ := selects_tags consistent rfl rfl parsed' (finds' _ flag')
    refine ⟨ids, ids', selects, selects', fun id mem => ?_⟩
    rw [means] at mem
    rw [means']
    exact consistent.narrows flag flag' (finds _ flag) (finds' _ flag') mem

/-- The second story lists the tag last, under another name. -/
theorem lookups_agree_renamed :
    (TagIndex.build renamed).tags.get? "5" =
        some (.object [("id", .text "5"), ("name", .text "Humor"), ("type", .text "genre")]) ∧
      ∃ inside found,
        ((tagVocabulary (.build renamed)).resolveFlag (qualifiedNode "hum" "genre")).result =
          .ok inside ∧
        ((tagVocabulary (.build renamed)).resolveFlag (plainNode "hum")).result = .ok found ∧
        ∀ id ∈ inside, id ∈ found := by
  have trimmed : Text.trim "hum" = "hum" := by decide +kernel
  obtain ⟨-, -, records, -, -, narrows, -⟩ := lookups_agree renamed
  refine ⟨(records _ _).mpr ⟨"2", [_], [_], rfl, ⟨"Humor", "genre", ⟨_, rfl, rfl⟩, rfl, rfl⟩, ?_⟩,
    narrows "genre" "hum" _ _ (isFlag_qualifiedNode trimmed _) (isFlag_plainNode trimmed)⟩
  -- what is listed behind it has no type
  intro entry behind
  rw [List.mem_singleton] at behind
  rintro ⟨name, kind, is⟩
  have typed := is.typed
  rw [behind] at typed
  cases typed

end Dialect.Archive
