import Dialect.Archive.Vocabulary
import Dialect.Proofs.Archive.Index
import Dialect.Proofs.Archive.Notation
import Dialect.Proofs.Text.Lowercase

/-!
What flags select in an archive of stories.

A flag looks for its pattern among the names of tags, whatever the case of either is. Without a
category it finds a tag by any name that some story lists it under; with one, only by the name that
it is last listed under with that type (`flagTags_finds`). Over stories it selects those that carry
a tag so found, in every form that the flag may be written in (`flag_selects`). A category may
therefore lose a tag that the pattern alone finds
(`category_loses`), but only one whose name was changed (`categories_find`).
-/

namespace Dialect.Archive

open Query

/-! ### Flags and the tags that they find -/

/-- Looking for a flag succeeds, with these tags. -/
def TagIndex.Finds (index : TagIndex) (node : ParseNode) (found : SortedSet String) : Prop :=
  (index.flagTags node).result = .ok found

instance {index : TagIndex} {node : ParseNode} {found : SortedSet String} :
    Decidable (index.Finds node found) :=
  decidable_of_iff ((index.flagTags node).result.toOption = some found) <| by
    unfold TagIndex.Finds
    cases (index.flagTags node).result <;> simp [Except.toOption]

/-- A tag answers to a pattern in a category: in lower case the pattern occurs in a name that the
tag is known by, or in the last one that it has with the category as its type. -/
def Answers (stories : Dataset) (category : Option String) (p tag : String) : Prop :=
  match category with
  | none => ∃ name, Known stories tag name ∧ (Text.lowercase p).toList <:+: name.toList
  | some c =>
    ∃ name, LastKnown stories (Text.lowercase c) tag name ∧
      (Text.lowercase p).toList <:+: name.toList

section

variable {stories : Dataset} {node : ParseNode} {category : Option String} {p : String}

theorem IsFlag.ofNode (flag : IsFlag node category p) :
    TagIndex.Flag.ofNode node = .ok ⟨category.map Text.lowercase, Text.lowercase p⟩ := by
  cases flag with
  | plain children decoded =>
      rw [TagIndex.Flag.ofNode, children]
      change (TagIndex.patternText _).map _ = _
      rw [decoded]
      rfl
  | qualified children named decoded =>
      obtain rfl := named
      rw [TagIndex.Flag.ofNode, children]
      change (TagIndex.patternText _).map _ = _
      rw [decoded]
      rfl

/-- The tags of a flag are searched for with its pattern in lower case. -/
theorem IsFlag.flagTags (flag : IsFlag node category p) (index : TagIndex) :
    index.flagTags node = index.select ⟨category.map Text.lowercase, Text.lowercase p⟩ := by
  rw [TagIndex.flagTags, Reported.bind_ok flag.ofNode]
  rfl

/-- Looking for a flag always succeeds, just with the tags that answer to it. -/
theorem flagTags_finds (stories : Dataset) (category : Option String) (p : String) :
    ∃ found, (∀ node, IsFlag node category p → (TagIndex.build stories).Finds node found) ∧
      ∀ tag, tag ∈ found ↔ Answers stories category p tag := by
  obtain ⟨found, result, mem⟩ := (TagIndex.build stories).select_finds
    ⟨category.map Text.lowercase, Text.lowercase p⟩
  refine ⟨found, fun node flag => ?_, fun tag => (mem tag).trans ?_⟩
  · rw [TagIndex.Finds, flag.flagTags, result]
  · cases category <;>
      simp only [Option.map_none, Option.map_some, TagIndex.Called, TagIndex.named_build,
        TagIndex.typed_build, Answers]

/-! ### Selecting stories -/

/-- The vocabulary gives the stories that carry a tag that answers to the flag. -/
theorem resolveFlag_stories (stories : Dataset) (category : Option String) (p : String) :
    ∃ ids, (∀ node, IsFlag node category p →
        ((storyVocabulary (.build stories)).resolveFlag node).result = .ok ids) ∧
      ∀ id, id ∈ ids ↔ ∃ tag, Carries stories id tag ∧ Answers stories category p tag := by
  obtain ⟨found, result, finds⟩ := flagTags_finds stories category p
  refine ⟨_, fun node flag => congrArg Reported.result (Reported.bind_ok (result node flag) _), ?_⟩
  intro id
  simp only [← SortedSet.mem_def, SortedSet.mem_ofList, List.mem_flatMap, TagIndex.mem_storiesWith]
  constructor
  · rintro ⟨tag, mem, carries⟩
    exact ⟨tag, carries, (finds tag).mp mem⟩
  · rintro ⟨tag, carries, answers⟩
    exact ⟨tag, (finds tag).mpr answers, carries⟩

theorem mem_ids_ofIds {ids : List String} {id : String} :
    id ∈ (Selection.ofIds stories ids).ids stories ↔ id ∈ stories.ids ∧ id ∈ ids := by
  simp only [Selection.mem_ids, Selection.ofIds, List.getElem?_map, Option.map_eq_some_iff,
    List.contains_iff_mem]
  constructor
  · rintro ⟨k, place, _, place', mem⟩
    obtain rfl := Option.some.inj (place.symm.trans place')
    exact ⟨List.mem_of_getElem? place, mem⟩
  · rintro ⟨known, mem⟩
    obtain ⟨k, place⟩ := List.mem_iff_getElem?.mp known
    exact ⟨k, place, id, place, mem⟩

theorem Carries.mem_ids {id tag : String} (carries : Carries stories id tag) :
    id ∈ stories.ids := by
  obtain ⟨record, known, -⟩ := carries_iff.mp carries
  exact SortedMap.mem_keys.mpr (Option.isSome_iff_exists.mpr ⟨record, known⟩)

/-- A flag over an archive selects exactly the stories that carry a tag that answers to it: as a
node in an expression, as a text that is read as such a node, and, where the engine reads flags in
its grammar, as any text that the flag may be written as. -/
theorem flag_selects {engine : Engine} (same : engine.dataset = stories)
    (tagged : engine.vocabulary = storyVocabulary (.build stories)) (category : Option String)
    (p : String) :
    ∃ ids, (∀ id, id ∈ ids ↔ ∃ tag, Carries stories id tag ∧ Answers stories category p tag) ∧
      (∀ node, IsFlag node category p →
        (∃ s, (engine.evaluateExpr (.flag node)).result = .ok s ∧ s.ids stories = ids) ∧
        ∀ text, engine.parse text = .ok (.flag node) → engine.Selects text ids) ∧
      ∀ capabilities : Capabilities, capabilities.flags = true →
        Engine.withCapabilities stories (storyVocabulary (.build stories)) capabilities =
          .ok engine →
        ∀ text, FlagText text category p → engine.Selects text ids := by
  obtain ⟨given, result, means⟩ := resolveFlag_stories stories category p
  have evaluated {node : ParseNode} (flag : IsFlag node category p) :
      (engine.evaluateExpr (.flag node)).result = .ok (Selection.ofIds engine.dataset given) := by
    rw [Engine.evaluateExpr, Reported.bind_ok (by rw [tagged]; exact result node flag)]
    rfl
  have selects {node : ParseNode} {text : String} (flag : IsFlag node category p)
      (parsed : engine.parse text = .ok (.flag node)) :
      engine.Selects text ((Selection.ofIds stories given).ids stories) :=
    (Engine.selects_iff parsed).mpr ⟨_, evaluated flag, by rw [same]⟩
  refine ⟨(Selection.ofIds stories given).ids stories, ?_, ?_, ?_⟩
  · intro id
    rw [mem_ids_ofIds, means]
    constructor
    · exact And.right
    · rintro ⟨tag, carries, answers⟩
      exact ⟨carries.mem_ids, tag, carries, answers⟩
  · intro node flag
    exact ⟨⟨_, evaluated flag, by rw [same]⟩, fun text parsed => selects flag parsed⟩
  · intro capabilities flags made text written
    have serves : (Variant.mk true capabilities.flags capabilities.features).Serves
        (storyVocabulary (.build stories)) := ⟨_, rfl⟩
    have parser : engine.parser =
        (queries ⟨true, capabilities.flags, capabilities.features⟩).parse "query" := by
      rw [parser_of_made serves made]
    obtain ⟨node, parsed, flag⟩ := written.parse parser flags
    exact selects flag parsed

/-- The first of three stories lists a tag under a name, the second under another one, and the third
has no tags. -/
def renamed : Dataset := .ofList [
  ("1", .object [("tags", .list [
    .object [("id", .number (.int 5)), ("name", .text "Comedy"), ("type", .text "Genre")]])]),
  ("2", .object [("tags", .list [
    .object [("id", .text "5"), ("name", .text "Humor"), ("type", .text "genre")],
    .object [("id", .null), ("name", .text "Comedy")]])]),
  ("3", .object [("title", .text "C")])]

/-- In letters of either case, behind blanks and in quotes, a flag selects all stories with the tag
that has the name, even the one that lists the tag under another name. -/
theorem flag_selects_renamed :
    (storyEngine renamed).Selects "Genre : \"HUM\"" ["1", "2"] ∧
      ∀ id, id ∈ ["1", "2"] ↔
        ∃ tag, Carries renamed id tag ∧ Answers renamed (some "Genre") "HUM" tag := by
  have small : renamed.size < Word.count32 := by decide +kernel
  have written : FlagText "Genre : \"HUM\"" (some "Genre") "HUM" :=
    @FlagText.qualified _ "Genre" _ [] [' '] [' '] _ [] (by decide +kernel) (by decide)
      (by decide) (by decide) (by decide) (by decide) (.quoted (.of "HUM"))
  have same : (storyEngine renamed).dataset = renamed := rfl
  obtain ⟨ids, means, -, reads⟩ := flag_selects same rfl (some "Genre") "HUM"
  have selects := reads _ rfl (withCapabilities_stories small) _ written
  have known : (storyEngine renamed).Selects "Genre : \"HUM\"" ["1", "2"] := by decide +kernel
  obtain rfl := Except.ok.inj (known.symm.trans selects)
  exact ⟨known, means⟩

/-! ### Categories and the pattern alone -/

/-- A type under which a tag is last listed is a category, and is its own lower case. -/
theorem LastKnown.mem_categories {kind tag name : String} (last : LastKnown stories kind tag name) :
    kind ∈ (TagIndex.build stories).categories ∧ Text.lowercase kind = kind := by
  obtain ⟨story, v, -, -, last, -, -⟩ := last
  refine ⟨TagIndex.mem_categories.mpr ⟨story, v, tag, last.mem, last.holds⟩, ?_⟩
  obtain ⟨-, k, -, rfl⟩ := last.holds
  exact Text.lowercase_lowercase k

/-- The pattern alone finds the tags in one of whose names it occurs; with a category it finds those
in whose last name with that type it occurs. So the flags of all categories together find, of the
tags that the pattern alone finds, those in whose last name with some type it occurs, and a tag that
keeps its names is not lost. -/
theorem categories_find (stories : Dataset) {plain : ParseNode} {within : String → ParseNode}
    (flag : IsFlag plain none p) (qualified : ∀ c, IsFlag (within c) (some c) p) :
    ∃ found, (TagIndex.build stories).Finds plain found ∧
      (∀ tag, tag ∈ found ↔
        ∃ name, Known stories tag name ∧ (Text.lowercase p).toList <:+: name.toList) ∧
      ∃ foundIn : String → SortedSet String,
        (∀ c, (TagIndex.build stories).Finds (within c) (foundIn c)) ∧
        (∀ c tag, tag ∈ foundIn c ↔
          ∃ name, LastKnown stories (Text.lowercase c) tag name ∧
            (Text.lowercase p).toList <:+: name.toList) ∧
        ∀ tag,
          ((∃ c ∈ (TagIndex.build stories).categories, tag ∈ foundIn c) ↔
            tag ∈ found ∧ ∃ kind name, LastKnown stories kind tag name ∧
              (Text.lowercase p).toList <:+: name.toList) ∧
          (KeepsNames stories tag →
            (tag ∈ found ↔ ∃ c ∈ (TagIndex.build stories).categories, tag ∈ foundIn c)) := by
  obtain ⟨found, result, finds⟩ := flagTags_finds stories none p
  choose foundIn results findsIn using fun c => flagTags_finds stories (some c) p
  have together (tag : String) :
      (∃ c ∈ (TagIndex.build stories).categories, tag ∈ foundIn c) ↔
        ∃ kind name, LastKnown stories kind tag name ∧
          (Text.lowercase p).toList <:+: name.toList := by
    simp only [findsIn, Answers]
    constructor
    · rintro ⟨c, -, name, last, occurs⟩
      exact ⟨Text.lowercase c, name, last, occurs⟩
    · rintro ⟨kind, name, last, occurs⟩
      obtain ⟨mem, same⟩ := last.mem_categories
      exact ⟨kind, mem, name, by rwa [same], occurs⟩
  refine ⟨found, result _ flag, finds, foundIn, fun c => results c _ (qualified c), findsIn, ?_⟩
  intro tag
  rw [together, finds]
  constructor
  · constructor
    · rintro ⟨kind, name, last, occurs⟩
      exact ⟨⟨name, last.known, occurs⟩, kind, name, last, occurs⟩
    · exact And.right
  · intro keeps
    constructor
    · rintro ⟨name, known, occurs⟩
      obtain ⟨kind, last⟩ := keeps.exists_lastKnown known
      exact ⟨kind, name, last, occurs⟩
    · rintro ⟨kind, name, last, occurs⟩
      exact ⟨name, last.known, occurs⟩

end

/-- A flag node with a bare pattern. -/
def plainNode (p : String) : ParseNode := ⟨"flag", p, 0, 0, [⟨"bare_pattern", p, 0, 0, []⟩]⟩

/-- A flag node with a category and a bare pattern. -/
def qualifiedNode (p c : String) : ParseNode :=
  ⟨"flag", c ++ ":" ++ p, 0, 0, [⟨"category", c, 0, 0, []⟩, ⟨"bare_pattern", p, 0, 0, []⟩]⟩

theorem isFlag_plainNode {p : String} (trimmed : Text.trim p = p) : IsFlag (plainNode p) none p :=
  .plain rfl (congrArg Except.ok trimmed)

theorem isFlag_qualifiedNode {p : String} (trimmed : Text.trim p = p) (c : String) :
    IsFlag (qualifiedNode p c) (some c) p :=
  .qualified rfl rfl (congrArg Except.ok trimmed)

theorem categories_find_comedy :
    (TagIndex.build twoStories).Finds (plainNode "com") (.single "5") ∧
      ∃ c ∈ (TagIndex.build twoStories).categories, ∃ foundIn,
        (TagIndex.build twoStories).Finds (qualifiedNode "com" c) foundIn ∧ "5" ∈ foundIn := by
  have trimmed : Text.trim "com" = "com" := by decide +kernel
  have keeps : KeepsNames twoStories "5" := by
    intro entry mem entry' mem' name kind name' kind' is is' _
    have same : ∀ e ∈ listed twoStories, e.2.member? "name" = some (.text "Comedy") := by
      rw [show listed twoStories = [("1", .object [("id", .text "5"), ("name", .text "Comedy"),
        ("type", .text "genre")])] from rfl]
      exact List.forall_mem_singleton.mpr rfl
    have named := (same _ mem).symm.trans is.named
    have named' := (same _ mem').symm.trans is'.named
    cases named
    cases named'
    rfl
  obtain ⟨found, result, -, foundIn, results, -, agree⟩ := categories_find twoStories
    (isFlag_plainNode trimmed) (isFlag_qualifiedNode trimmed)
  have known : (TagIndex.build twoStories).Finds (plainNode "com") (.single "5") := by
    decide +kernel
  obtain rfl := Except.ok.inj (known.symm.trans result)
  obtain ⟨c, mem, mem'⟩ := ((agree "5").2 keeps).mp (by simp)
  exact ⟨known, c, mem, foundIn c, results c, mem'⟩

/-- A tag whose name was changed is found by its old name, but in no category. -/
theorem category_loses :
    ¬ ∀ (stories : Dataset) (p : String) (plain : ParseNode) (within : String → ParseNode),
      IsFlag plain none p → (∀ c, IsFlag (within c) (some c) p) →
        ∀ found, (TagIndex.build stories).Finds plain found →
          ∀ tag, tag ∈ found ↔ ∃ c ∈ (TagIndex.build stories).categories, ∃ foundIn,
            (TagIndex.build stories).Finds (within c) foundIn ∧ tag ∈ foundIn := by
  intro agree
  have trimmed : Text.trim "comedy" = "comedy" := by decide +kernel
  have categories : (TagIndex.build renamed).categories = ["genre"] := by decide +kernel
  have found : (TagIndex.build renamed).Finds (plainNode "comedy") (.single "5") := by
    decide +kernel
  have nothing : (TagIndex.build renamed).Finds (qualifiedNode "comedy" "genre") ∅ := by
    decide +kernel
  have same := agree renamed "comedy" (plainNode "comedy") (qualifiedNode "comedy")
    (isFlag_plainNode trimmed) (isFlag_qualifiedNode trimmed) _ found "5"
  obtain ⟨c, mem, foundIn, result, mem'⟩ := same.mp (by simp)
  rw [categories, List.mem_singleton] at mem
  subst mem
  obtain rfl := Except.ok.inj (nothing.symm.trans result)
  simp at mem'

end Dialect.Archive
