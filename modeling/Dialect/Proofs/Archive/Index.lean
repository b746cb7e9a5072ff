import Mathlib.Data.List.Induction
import Dialect.Archive.TagIndex

/-!
What the tag index of an archive holds.

The stories list tags, in the order of their ids and each in the order of its list; a tag counts if
it has an id, a name and a type. Of every tag the index holds the stories that list it, all names
that it is listed under, and under each type the last of them (`holds_build`). Flags look for names:
which tags they select from an index is said by `select_finds`.
-/

namespace Dialect.Archive

/-! ### The last element with a property -/

/-- An element of the list has the property, and no later one does. -/
def Last {α : Type} (P : α → Prop) (l : List α) (a : α) : Prop :=
  ∃ before after, l = before ++ a :: after ∧ P a ∧ ∀ b ∈ after, ¬ P b

section Last

variable {α β : Type} {P : α → Prop} {l : List α} {a b : α}

theorem Last.holds (last : Last P l a) : P a := by
  obtain ⟨-, -, -, holds, -⟩ := last
  exact holds

theorem Last.mem (last : Last P l a) : a ∈ l := by
  obtain ⟨before, after, rfl, -⟩ := last
  simp

theorem not_last_nil : ¬ Last P [] a := by
  rintro ⟨before, after, split, -⟩
  cases before <;> cases split

/-- At the end of a list, an element with the property takes the place of the last one before. -/
theorem last_concat : Last P (l ++ [b]) a ↔ P b ∧ a = b ∨ ¬ P b ∧ Last P l a := by
  constructor
  · rintro ⟨before, after, split, holds, none_later⟩
    rcases List.eq_nil_or_concat after with rfl | ⟨after, c, rfl⟩
    · obtain ⟨-, same⟩ := List.append_inj' split rfl
      obtain rfl : b = a := (List.cons.inj same).1
      exact .inl ⟨holds, rfl⟩
    · rw [List.concat_eq_append] at split none_later
      rw [← List.cons_append, ← List.append_assoc] at split
      obtain ⟨rfl, same⟩ := List.append_inj' split rfl
      obtain rfl : b = c := (List.cons.inj same).1
      refine .inr ⟨none_later b (by simp), before, after, rfl, holds, ?_⟩
      intro x mem
      exact none_later x (List.mem_append_left _ mem)
  · rintro (⟨holds, rfl⟩ | ⟨fails, before, after, rfl, holds, none_later⟩)
    · exact ⟨l, [], rfl, holds, by simp⟩
    · refine ⟨before, after ++ [b], by simp, holds, ?_⟩
      intro x mem
      rcases List.mem_append.mp mem with mem | mem
      · exact none_later x mem
      · rwa [List.mem_singleton.mp mem]

/-- Where the property occurs, it occurs last. -/
theorem exists_last (mem : a ∈ l) (holds : P a) : ∃ b, Last P l b := by
  induction l using List.reverseRecOn with
  | nil => simp at mem
  | append_singleton l c ih =>
    simp only [last_concat]
    by_cases here : P c
    · exact ⟨c, .inl ⟨here, rfl⟩⟩
    · rcases List.mem_append.mp mem with mem | mem
      · obtain ⟨b, last⟩ := ih mem
        exact ⟨b, .inr ⟨here, last⟩⟩
      · exact absurd holds (List.mem_singleton.mp mem ▸ here)

/-- The last element with a property, among those that a partial function gives. -/
theorem last_filterMap {f : β → Option α} {l : List β} :
    Last P (l.filterMap f) a ↔
      ∃ b, Last (fun b => ∃ a, f b = some a ∧ P a) l b ∧ f b = some a := by
  induction l using List.reverseRecOn with
  | nil => simp [not_last_nil]
  | append_singleton l c ih =>
    simp only [last_concat]
    cases given : f c with
    | none => simp [given, ih]
    | some d =>
      simp only [List.filterMap_append, List.filterMap_cons, given, List.filterMap_nil,
        last_concat, ih, Option.some.injEq, exists_eq_left']
      constructor
      · rintro (⟨holds, rfl⟩ | ⟨fails, b, last, made⟩)
        · exact ⟨c, .inl ⟨holds, rfl⟩, given⟩
        · exact ⟨b, .inr ⟨fails, last⟩, made⟩
      · rintro ⟨b, ⟨holds, rfl⟩ | ⟨fails, last⟩, made⟩
        · exact .inl ⟨holds, Option.some.inj (made.symm.trans given)⟩
        · exact .inr ⟨fails, b, last, made⟩

end Last

/-! ### The tags that stories list -/

/-- The entries of a story's list of tags; without such a list there are none. -/
def tagList (story : Value) : List Value :=
  match story.member? "tags" with
  | some (.list tags) => tags
  | _ => []

/-- What the stories list as tags, each with the id of its story: the stories in the order of their
ids, the tags of each in the order of its list. -/
def listed (stories : Dataset) : List (String × Value) :=
  stories.toList.flatMap fun entry => (tagList entry.2).map (entry.1, ·)

/-- A tag, as a story lists it: an id of any kind that is written like this, a name and a type. -/
structure IsTag (v : Value) (tag name kind : String) : Prop where
  known : ∃ id, v.member? "id" = some id ∧ id.render = tag
  named : v.member? "name" = some (.text name)
  typed : v.member? "type" = some (.text kind)

/-- The tag with this type, up to case. -/
def IsTagOf (kind tag : String) (v : Value) : Prop :=
  ∃ name k, IsTag v tag name k ∧ Text.lowercase k = kind

variable {stories : Dataset} {story tag name kind pattern : String}

/-- The story lists the tag. -/
def Carries (stories : Dataset) (story tag : String) : Prop :=
  ∃ v name kind, (story, v) ∈ listed stories ∧ IsTag v tag name kind

theorem mem_listed {v : Value} :
    (story, v) ∈ listed stories ↔
      ∃ record, stories.get? story = some record ∧ v ∈ tagList record := by
  simp only [listed, List.mem_flatMap, List.mem_map, Prod.mk.injEq, Prod.exists, Dataset.get?,
    SortedMap.get?_eq_some, Dataset.toList]
  constructor
  · rintro ⟨_, record, known, _, mem, rfl, rfl⟩
    exact ⟨record, known, mem⟩
  · rintro ⟨record, known, mem⟩
    exact ⟨story, record, known, v, mem, rfl, rfl⟩

theorem carries_iff :
    Carries stories story tag ↔ ∃ record, stories.get? story = some record ∧
      ∃ v ∈ tagList record, ∃ name kind, IsTag v tag name kind := by
  simp only [Carries, mem_listed]
  constructor
  · rintro ⟨v, name, kind, ⟨record, known, mem⟩, is⟩
    exact ⟨record, known, v, mem, name, kind, is⟩
  · rintro ⟨record, known, v, mem, name, kind, is⟩
    exact ⟨v, name, kind, ⟨record, known, mem⟩, is⟩

/-- Some story lists the tag under this name, up to case. -/
def Known (stories : Dataset) (tag name : String) : Prop :=
  ∃ story v written kind, (story, v) ∈ listed stories ∧ IsTag v tag written kind ∧
    Text.lowercase written = name

/-- Where the tag is last listed with this type, its name is this one, up to case. -/
def LastKnown (stories : Dataset) (kind tag name : String) : Prop :=
  ∃ story v written k, Last (fun entry => IsTagOf kind tag entry.2) (listed stories) (story, v) ∧
    IsTag v tag written k ∧ Text.lowercase written = name

/-- Wherever the tag is listed with the same type, its name is the same, up to case. -/
def KeepsNames (stories : Dataset) (tag : String) : Prop :=
  ∀ entry ∈ listed stories, ∀ entry' ∈ listed stories, ∀ name kind name' kind',
    IsTag entry.2 tag name kind → IsTag entry'.2 tag name' kind' →
      Text.lowercase kind = Text.lowercase kind' → Text.lowercase name = Text.lowercase name'

theorem LastKnown.known (last : LastKnown stories kind tag name) : Known stories tag name := by
  obtain ⟨story, v, written, k, last, is, called⟩ := last
  exact ⟨story, v, written, k, last.mem, is, called⟩

/-- A tag that keeps its names is last listed under each of them with some type. -/
theorem KeepsNames.exists_lastKnown (keeps : KeepsNames stories tag)
    (known : Known stories tag name) : ∃ kind, LastKnown stories kind tag name := by
  obtain ⟨story, v, written, k, mem, is, rfl⟩ := known
  obtain ⟨⟨story', v'⟩, last⟩ :=
    exists_last (P := fun entry : String × Value => IsTagOf (Text.lowercase k) tag entry.2) mem
      ⟨written, k, is, rfl⟩
  obtain ⟨written', k', is', same⟩ := last.holds
  refine ⟨Text.lowercase k, story', v', written', k', last, is', ?_⟩
  exact keeps _ last.mem _ mem _ _ _ _ is' is same

theorem ofValue?_eq_some {v : Value} {t : Tag} :
    Tag.ofValue? v = some t ↔
      ∃ name kind, IsTag v t.id name kind ∧ t.name = Text.lowercase name ∧
        t.kind = Text.lowercase kind ∧ t.record = v := by
  constructor
  · intro read
    unfold Tag.ofValue? at read
    split at read
    · next id name kind known named typed =>
      cases read
      exact ⟨name, kind, ⟨⟨id, known, rfl⟩, named, typed⟩, rfl, rfl, rfl⟩
    · cases read
  · obtain ⟨tag, name, kind, record⟩ := t
    rintro ⟨_, _, ⟨⟨id, known, rfl⟩, named, typed⟩, rfl, rfl, rfl⟩
    simp only [Tag.ofValue?, known, named, typed]

theorem isTagOf_iff {v : Value} :
    IsTagOf kind tag v ↔ ∃ t, Tag.ofValue? v = some t ∧ t.kind = kind ∧ t.id = tag := by
  simp only [ofValue?_eq_some]
  constructor
  · rintro ⟨name, k, is, rfl⟩
    exact ⟨⟨tag, _, _, v⟩, ⟨name, k, is, rfl, rfl, rfl⟩, rfl, rfl⟩
  · rintro ⟨t, ⟨name, k, is, -, typed, -⟩, rfl, rfl⟩
    exact ⟨name, k, is, typed.symm⟩

/-- What the index reads of an entry. -/
def occurrence? (entry : String × Value) : Option (String × Tag) :=
  (Tag.ofValue? entry.2).map (entry.1, ·)

theorem occurrence?_eq_some {v : Value} {t : Tag} {other : String} :
    occurrence? (other, v) = some (story, t) ↔ other = story ∧ Tag.ofValue? v = some t := by
  simp only [occurrence?, Option.map_eq_some_iff, Prod.mk.injEq]
  constructor
  · rintro ⟨_, read, rfl, rfl⟩
    exact ⟨rfl, read⟩
  · rintro ⟨rfl, read⟩
    exact ⟨t, read, rfl, rfl⟩

theorem tagsOf_eq (v : Value) : tagsOf v = (tagList v).filterMap Tag.ofValue? := by
  unfold tagsOf tagList
  rcases v.member? "tags" with _ | list
  · rfl
  · cases list <;> rfl

theorem occurrences_eq : occurrences stories = (listed stories).filterMap occurrence? := by
  simp only [occurrences, listed, List.filterMap_flatMap, tagsOf_eq, List.filterMap_map,
    List.map_filterMap]
  rfl

theorem mem_occurrences {t : Tag} :
    (story, t) ∈ occurrences stories ↔
      ∃ v, (story, v) ∈ listed stories ∧ Tag.ofValue? v = some t := by
  rw [occurrences_eq, List.mem_filterMap]
  simp only [Prod.exists, occurrence?_eq_some]
  constructor
  · rintro ⟨_, v, mem, rfl, read⟩
    exact ⟨v, mem, read⟩
  · rintro ⟨v, mem, read⟩
    exact ⟨story, v, mem, rfl, read⟩

/-- The last of the occurrences with a property stands where a value is last listed whose tag has
it. -/
theorem last_occurrences {P : Tag → Prop} {Q : Value → Prop}
    (means : ∀ v, Q v ↔ ∃ t, Tag.ofValue? v = some t ∧ P t) {t : Tag} :
    Last (fun o => P o.2) (occurrences stories) (story, t) ↔
      ∃ v, Last (fun entry => Q entry.2) (listed stories) (story, v) ∧
        Tag.ofValue? v = some t := by
  have same (entry : String × Value) :
      (∃ o, occurrence? entry = some o ∧ P o.2) ↔ Q entry.2 := by
    simp only [means, occurrence?, Option.map_eq_some_iff]
    constructor
    · rintro ⟨_, ⟨t, read, rfl⟩, holds⟩
      exact ⟨t, read, holds⟩
    · rintro ⟨t, read, holds⟩
      exact ⟨_, ⟨t, read, rfl⟩, holds⟩
  rw [occurrences_eq, last_filterMap]
  simp only [same, Prod.exists, occurrence?_eq_some]
  constructor
  · rintro ⟨_, v, last, rfl, read⟩
    exact ⟨v, last, read⟩
  · rintro ⟨v, last, read⟩
    exact ⟨story, v, last, rfl, read⟩

/-! ### The invariant of building -/

/-- What an index holds after it has met these tags. -/
structure TagIndex.Holds (index : TagIndex) (seen : List (String × Tag)) : Prop where
  /-- Under a tag, the stories that it was met in. -/
  stories (tag story : String) :
    story ∈ (index.storiesByTag.get? tag).getD ∅ ↔ ∃ t, (story, t) ∈ seen ∧ t.id = tag
  /-- Under a name, the tags that were met with it. -/
  names (name tag : String) :
    tag ∈ (index.byName.get? name).getD ∅ ↔ ∃ o ∈ seen, o.2.name = name ∧ o.2.id = tag
  /-- The types are those that were met. -/
  kinds (kind : String) : (index.byType.get? kind).isSome ↔ ∃ o ∈ seen, o.2.kind = kind
  /-- Under a type and a tag, the name that it was last met with. -/
  lastNames (kind tag name : String) :
    ((index.byType.get? kind).getD ∅).get? tag = some name ↔
      ∃ o, Last (fun o => o.2.kind = kind ∧ o.2.id = tag) seen o ∧ o.2.name = name
  /-- Under a tag, the record that was met last. -/
  records (tag : String) (record : Value) :
    index.tags.get? tag = some record ↔
      ∃ o, Last (fun o => o.2.id = tag) seen o ∧ o.2.record = record

namespace TagIndex

variable {index : TagIndex}

/-- By the name the index finds the tag. -/
def Named (index : TagIndex) (name tag : String) : Prop :=
  ∃ ids, index.byName.get? name = some ids ∧ tag ∈ ids

theorem named_iff : index.Named name tag ↔ tag ∈ (index.byName.get? name).getD ∅ := by
  cases found : index.byName.get? name <;> simp [Named, found]

/-- Under the type the index has the tag, with the name. -/
def Typed (index : TagIndex) (kind tag name : String) : Prop :=
  ∃ bucket, index.byType.get? kind = some bucket ∧ bucket.get? tag = some name

theorem typed_iff :
    index.Typed kind tag name ↔ ((index.byType.get? kind).getD ∅).get? tag = some name := by
  cases found : index.byType.get? kind <;> simp [Typed, found]

theorem holds_empty : Holds {} [] := by
  constructor <;> simp [not_last_nil]

theorem Holds.add {seen : List (String × Tag)} (holds : index.Holds seen)
    (o : String × Tag) : (index.add o).Holds (seen ++ [o]) := by
  obtain ⟨story, t⟩ := o
  constructor
  case stories =>
    intro tag other
    simp only [TagIndex.add, SortedMap.get?_alter]
    by_cases same : tag = t.id
    · subst same
      simp [holds.stories, or_comm, or_and_right, exists_or]
    · rw [if_neg same, holds.stories]
      simp [or_and_right, exists_or, Ne.symm same]
  case names =>
    intro name tag
    simp only [TagIndex.add, SortedMap.get?_alter]
    by_cases same : name = t.name
    · subst same
      simp [holds.names, or_comm, or_and_right, exists_or, eq_comm]
    · rw [if_neg same, holds.names]
      simp [or_and_right, exists_or, Ne.symm same]
  case kinds =>
    intro kind
    simp only [TagIndex.add, SortedMap.get?_alter]
    by_cases same : kind = t.kind
    · simp [same]
    · rw [if_neg same, holds.kinds]
      simp [or_and_right, exists_or, Ne.symm same]
  case lastNames =>
    -- Only for its own type and id does a tag take the place of the last one.
    intro kind tag name
    simp only [TagIndex.add, SortedMap.get?_alter, last_concat]
    by_cases same : kind = t.kind
    · subst same
      by_cases here : tag = t.id
      · subst here
        simp [SortedMap.get?_insert]
      · simp [SortedMap.get?_insert, here, Ne.symm here, holds.lastNames]
    · rw [if_neg same, holds.lastNames]
      simp [Ne.symm same]
  case records =>
    intro tag record
    simp only [TagIndex.add, SortedMap.get?_insert, last_concat]
    by_cases same : tag = t.id
    · subst same
      simp
    · rw [if_neg same, holds.records]
      simp [Ne.symm same]

theorem Holds.foldl_add {seen : List (String × Tag)} (holds : index.Holds seen)
    (more : List (String × Tag)) : (more.foldl TagIndex.add index).Holds (seen ++ more) := by
  induction more generalizing index seen with
  | nil => simpa using holds
  | cons o more ih => simpa using ih (holds.add o)

theorem holds_build (stories : Dataset) : (build stories).Holds (occurrences stories) :=
  holds_empty.foldl_add (occurrences stories)

/-! ### Looking for tags -/

theorem mem_storiesWith : story ∈ (build stories).storiesWith tag ↔ Carries stories story tag := by
  rw [storiesWith, ← SortedSet.mem_def, (holds_build stories).stories]
  simp only [mem_occurrences, ofValue?_eq_some]
  constructor
  · rintro ⟨t, ⟨v, mem, name, kind, is, -, -, -⟩, rfl⟩
    exact ⟨v, name, kind, mem, is⟩
  · rintro ⟨v, name, kind, mem, is⟩
    exact ⟨⟨tag, _, _, v⟩, ⟨v, mem, name, kind, is, rfl, rfl, rfl⟩, rfl⟩

theorem named_build : (build stories).Named name tag ↔ Known stories tag name := by
  rw [named_iff, (holds_build stories).names]
  simp only [Prod.exists, mem_occurrences, ofValue?_eq_some]
  constructor
  · rintro ⟨story, t, ⟨v, mem, written, kind, is, called, -, -⟩, rfl, rfl⟩
    exact ⟨story, v, written, kind, mem, is, called.symm⟩
  · rintro ⟨story, v, written, kind, mem, is, rfl⟩
    exact ⟨story, ⟨tag, _, _, v⟩, ⟨v, mem, written, kind, is, rfl, rfl, rfl⟩, rfl, rfl⟩

theorem typed_build : (build stories).Typed kind tag name ↔ LastKnown stories kind tag name := by
  rw [typed_iff, (holds_build stories).lastNames]
  simp only [Prod.exists, last_occurrences fun _ => isTagOf_iff]
  constructor
  · rintro ⟨story, t, ⟨v, last, read⟩, rfl⟩
    obtain ⟨written, k, is, called, -, -⟩ := ofValue?_eq_some.mp read
    obtain ⟨_, read', -, rfl⟩ := isTagOf_iff.mp last.holds
    obtain rfl := Option.some.inj (read.symm.trans read')
    exact ⟨story, v, written, k, last, is, called.symm⟩
  · rintro ⟨story, v, written, k, last, is, rfl⟩
    have read := ofValue?_eq_some (t := ⟨tag, _, _, v⟩).mpr ⟨written, k, is, rfl, rfl, rfl⟩
    exact ⟨story, _, ⟨v, last, read⟩, rfl⟩

/-- The types are those of the tags that are listed. -/
theorem mem_categories :
    kind ∈ (build stories).categories ↔
      ∃ story v tag, (story, v) ∈ listed stories ∧ IsTagOf kind tag v := by
  rw [categories, SortedMap.mem_keys, (holds_build stories).kinds]
  simp only [Prod.exists, mem_occurrences, isTagOf_iff]
  constructor
  · rintro ⟨story, t, ⟨v, mem, read⟩, typed⟩
    exact ⟨story, v, t.id, mem, t, read, typed, rfl⟩
  · rintro ⟨story, v, tag, mem, t, read, typed, -⟩
    exact ⟨story, t, ⟨v, mem, read⟩, typed⟩

/-! ### Selecting tags -/

/-- Without a type, any name that finds a tag will do. -/
theorem mem_tagsNamed :
    tag ∈ index.tagsNamed pattern ↔
      ∃ name, index.Named name tag ∧ pattern.toList <:+: name.toList := by
  simp only [tagsNamed, Named, SortedSet.mem_ofList, List.mem_flatMap, List.mem_filter, Prod.exists,
    ← SortedMap.get?_eq_some, nameMatches, Text.contains_iff, ← SortedSet.mem_def]
  constructor
  · rintro ⟨name, ids, ⟨found, occurs⟩, mem⟩
    exact ⟨name, ⟨ids, found, mem⟩, occurs⟩
  · rintro ⟨name, ⟨ids, found, mem⟩, occurs⟩
    exact ⟨name, ids, ⟨found, occurs⟩, mem⟩

/-- Within a type, the last name of a tag counts. -/
theorem mem_tagsInCategory? :
    (∃ found, index.tagsInCategory? kind pattern = some found ∧ tag ∈ found) ↔
      ∃ name, index.Typed kind tag name ∧ pattern.toList <:+: name.toList := by
  simp only [tagsInCategory?, Typed, Option.map_eq_some_iff]
  cases index.byType.get? kind with
  | none => simp
  | some bucket =>
    simp only [Option.some.injEq, exists_eq_left', SortedSet.mem_ofList, List.mem_map,
      List.mem_filter, nameMatches, Text.contains_iff, Prod.exists, ← SortedMap.get?_eq_some,
      exists_and_right, exists_eq_right]

/-- The names of a tag that count for a flag: with a category the one under that type, without one
all that find the tag. -/
def Called (index : TagIndex) (category : Option String) (tag name : String) : Prop :=
  match category with
  | none => index.Named name tag
  | some kind => index.Typed kind tag name

/-- Reporting that nothing is found does not change what is found. -/
theorem reportEmpty_result (term : String) (found : SortedSet String) :
    (reportEmpty term found).result = .ok found := by
  unfold reportEmpty
  split <;> rfl

/-- A flag always selects something: the tags with a name that counts and in which its pattern
occurs. -/
theorem select_finds (index : TagIndex) (flag : Flag) :
    ∃ found, (index.select flag).result = .ok found ∧
      ∀ tag, tag ∈ found ↔
        ∃ name, index.Called flag.category tag name ∧ flag.pattern.toList <:+: name.toList := by
  obtain ⟨category, pattern⟩ := flag
  cases category with
  | none => exact ⟨_, reportEmpty_result _ _, fun _ => mem_tagsNamed⟩
  | some kind =>
    simp only [select, Called, ← mem_tagsInCategory?]
    cases index.tagsInCategory? kind pattern with
    | none => exact ⟨∅, rfl, by simp⟩
    | some found => exact ⟨found, reportEmpty_result _ _, by simp⟩

end TagIndex

end Dialect.Archive
