import Dialect.Proofs.Template.JoinReference

/-!
What planning a join foresees, and what it does not.

A walk stops at a list exactly where a beginning of its path leads to one under the same pins
(`resolve_unpinnedList`). Once the fields of a join reach a single list and an element of it is
pinned, no walk stops at a list with a path of its own: the search for boundaries would have found
it. Elements of a list are searched under the path of the list, so a list that is itself an element
is no second boundary, and walks into it stop (`planning_agrees`, `unplanned_list`).
-/

namespace Dialect

namespace FieldPath

variable {whole reached : List String} {pins : Pins} {v : Value}

theorem stopped_eq {at_ : List String} {fault fault' : FieldFault} {path : String} :
    stopped whole at_ fault = .field path fault' ↔
      path = FieldPath.text (if at_.isEmpty then ⟨whole⟩ else ⟨at_⟩) ∧ fault = fault' := by
  rw [stopped, Error.field.injEq]
  exact and_congr_left fun _ => eq_comm

/-- Applying a pin has failures of its own. -/
theorem select_ne_unpinnedList : select pins reached v ≠ .error .unpinnedList := by
  intro fails
  obtain ⟨_, -, ⟨_, -, -, other⟩ | ⟨-, other⟩⟩ := select_error.mp fails
  · cases other
  · cases other

/-- Only a list that no pin selects from is reported as one, and at its own place. -/
theorem halts_unpinnedList {segment : String} {place : List String} :
    Halts pins reached segment v place .unpinnedList ↔
      (∃ items, v = .list items) ∧ place = reached := by
  constructor
  · intro halts
    cases halts with
    | list => exact ⟨⟨_, rfl⟩, rfl⟩
    | pin _ refused => exact absurd refused select_ne_unpinnedList
  · rintro ⟨⟨items, rfl⟩, rfl⟩
    exact .list

variable {p b : FieldPath} {record : Value} {path : String} {i : Nat}

/-- A path fails at a list exactly where a proper beginning of it leads to one under the same
pins. -/
theorem resolve_unpinnedList :
    p.resolve record pins = .error (.field path .unpinnedList) ↔
      ∃ x : FieldPath, x.segments <+: p.segments ∧ x ≠ p ∧
        (∃ items, x.resolve record pins = .ok (.list items)) ∧
        path = (if x.isRoot then p else x).text := by
  rw [resolve, walk_error]
  constructor
  · rintro ⟨x, segment, rest, w, place, fault, split, walked, halts, same⟩
    obtain ⟨named, rfl⟩ := stopped_eq.mp same
    obtain ⟨⟨items, rfl⟩, here⟩ := halts_unpinnedList.mp halts
    rw [here] at named
    refine ⟨⟨x⟩, ⟨segment :: rest, split.symm⟩, ?_, ⟨items, walk_ok_whole.mp walked⟩, named⟩
    rintro rfl
    simp at split
  · rintro ⟨x, ⟨rest, split⟩, proper, ⟨items, walked⟩, rfl⟩
    cases rest with
    | nil =>
      rw [List.append_nil] at split
      exact absurd (congrArg FieldPath.mk split) proper
    | cons segment rest =>
      exact ⟨x.segments, segment, rest, _, _, _, split.symm, walk_ok_whole.mp walked,
        halts_unpinnedList.mpr ⟨⟨items, rfl⟩, rfl⟩, rfl⟩

end FieldPath

/-! ### What the search for boundaries meets -/

/-- Inside an element of a list that is reached, what a route leads to is reached too. -/
theorem Reaches.of_item {record item w : Value} {b : FieldPath} {outer : List Value}
    {y : List String} (reached : Reaches record b (.list outer)) (proper : b ≠ .root)
    (mem : item ∈ outer) (leads : item.descend? y = some w) :
    Reaches record ⟨b.segments ++ y⟩ w := by
  induction y using List.reverseRecOn generalizing w with
  | nil =>
    cases leads
    rw [List.append_nil]
    exact reached.element proper mem
  | append_singleton y segment ih =>
    rw [Value.descend?_concat, Option.bind_eq_some_iff] at leads
    obtain ⟨v, leads, member⟩ := leads
    rw [← List.append_assoc]
    exact (ih leads).member member

/-- A list that the rest of a required route leads to inside an element of a list is a boundary. -/
theorem mem_boundaries_of_item {record : Value} {required : Requirements} {p b : FieldPath}
    {y : List String} {outer items : List Value} {item : Value} (needed : p ∈ required)
    (proper : b.segments ≠ []) (pre : b.segments ++ y <+: p.segments)
    (here : record.descend? b.segments = some (.list outer)) (mem : item ∈ outer)
    (leads : item.descend? y = some (.list items)) :
    (⟨b.segments ++ y⟩ : FieldPath) ∈ boundaries record required := by
  have unrooted : b ≠ .root := fun root => proper (congrArg FieldPath.segments root)
  exact mem_boundaries.mpr ⟨mem_prefixClosure.mpr ⟨by simp [proper], p, needed, pre⟩, items,
    (Reaches.of_descend here).of_item unrooted mem leads⟩

namespace Template

section Pinned

variable {record : Value} {required : Requirements} {b p x : FieldPath}

/-- Requirements with a single boundary that is a list, and an element of the list. -/
structure Planned (record : Value) (required : Requirements) (b : FieldPath) (i : Nat)
    (item : Value) : Prop where
  single : (boundaries record required).toList = [b]
  element : ∃ items, b.resolve record ∅ = .ok (.list items) ∧ items[i]? = some item

variable {i : Nat} {item : Value}

theorem Planned.eq_of_boundary (planned : Planned record required b i item)
    (found : x ∈ boundaries record required) : x = b :=
  (SortedSet.toList_eq_singleton.mp planned.single x).mp found

theorem Planned.proper (planned : Planned record required b i item) : b.segments ≠ [] :=
  (single_boundary_list planned.single).1

/-- A record with a single boundary is no list, so a beginning of a required path that leads to a
list without pins is the boundary. -/
theorem eq_boundary_of_list (single : (boundaries record required).toList = [b])
    (needed : p ∈ required) (pre : x.segments <+: p.segments) {items : List Value}
    (leads : record.descend? x.segments = some (.list items)) : x = b := by
  obtain ⟨proper, outer, here⟩ := single_boundary_list single
  by_cases root : x.segments = []
  · rw [root] at leads
    cases leads
    obtain ⟨segment, rest, split⟩ := List.exists_cons_of_ne_nil proper
    rw [FieldPath.resolve_unpinned, split] at here
    cases here
  · have found := mem_boundaries_of_descend needed root pre leads
    exact (SortedSet.toList_eq_singleton.mp single x).mp found

/-- Under the pin, the only beginning of a required path that leads to a list is the boundary, and
only if the element is itself a list. -/
theorem Planned.leads_to_list (planned : Planned record required b i item) (needed : p ∈ required)
    (pre : x.segments <+: p.segments) :
    (∃ items, x.resolve record (Pins.single b i) = .ok (.list items)) ↔
      x = b ∧ item.isList = true := by
  obtain ⟨outer, here, taken⟩ := planned.element
  have under {y : List String} {w : Value} :
      FieldPath.resolve ⟨b.segments ++ y⟩ record (Pins.single b i) = .ok w ↔
        item.descend? y = some w := by
    simp [FieldPath.resolve_under planned.proper, here, taken, FieldPath.resolve_unpinned]
  constructor
  · rintro ⟨items, leads⟩
    by_cases through : b.segments <+: x.segments
    · obtain ⟨y, split⟩ := through
      have same : x = ⟨b.segments ++ y⟩ := congrArg FieldPath.mk split.symm
      rw [same, under] at leads
      by_cases here_ : y = []
      · rw [here_] at leads same
        cases leads
        exact ⟨by rw [same, List.append_nil], rfl⟩
      · -- another list further on would be a second boundary
        have second := mem_boundaries_of_item needed planned.proper (split ▸ pre)
          (FieldPath.resolve_unpinned.mp here) (List.mem_of_getElem? taken) leads
        have same' := congrArg FieldPath.segments (planned.eq_of_boundary second)
        exact absurd (List.append_right_eq_self.mp same') here_
    · rw [FieldPath.resolve_aside through, FieldPath.resolve_unpinned] at leads
      have same := eq_boundary_of_list planned.single needed pre leads
      exact absurd (same ▸ List.prefix_refl _) through
  · rintro ⟨rfl, list⟩
    cases item with
    | list items => exact ⟨items, by simpa using @under [] (.list items)⟩
    | null | bool | number | text | object => cases list

/-- Once the only boundary is pinned to one of its elements, a required path fails at a list exactly
if it goes on beyond the boundary and the element is itself a list. The error names the boundary. -/
theorem Planned.unpinnedList (planned : Planned record required b i item) (needed : p ∈ required)
    {path : String} :
    p.resolve record (Pins.single b i) = .error (.field path .unpinnedList) ↔
      item.isList = true ∧ b.segments <+: p.segments ∧ p ≠ b ∧ path = b.text := by
  have unrooted : b.isRoot = false := by simpa [FieldPath.isRoot] using planned.proper
  rw [FieldPath.resolve_unpinnedList]
  constructor
  · rintro ⟨x, pre, short, leads, rfl⟩
    obtain ⟨rfl, list⟩ := (planned.leads_to_list needed pre).mp leads
    exact ⟨list, pre, Ne.symm short, by rw [unrooted]; rfl⟩
  · rintro ⟨list, pre, beyond, rfl⟩
    refine ⟨b, pre, Ne.symm beyond, (planned.leads_to_list needed pre).mpr ⟨rfl, list⟩, ?_⟩
    rw [unrooted]
    rfl

end Pinned

/-! ### Failures of compositions -/

section Failures

variable {record : Value} {pins : Pins} {fault : Error}

theorem generateAll_cons_error {g : Generator} {rest : List Generator} :
    Generator.generateAll record pins (g :: rest) = .error fault ↔
      g.generate record pins = .error fault ∨
        (∃ s, g.generate record pins = .ok s) ∧
          Generator.generateAll record pins rest = .error fault := by
  rw [Generator.generateAll, bind_eq_error]
  refine or_congr_right ?_
  constructor
  · rintro ⟨s, first, fails⟩
    rcases bind_eq_error.mp fails with later | ⟨t, -, impossible⟩
    · exact ⟨⟨s, first⟩, later⟩
    · cases impossible
  · rintro ⟨⟨s, first⟩, later⟩
    exact ⟨s, first, bind_eq_error.mpr (.inl later)⟩

/-- A single piece, which stays itself, fails like the list that holds only it. -/
theorem generate_concat_error {gs : List Generated} :
    (Generated.concat gs).generator.generate record pins = .error fault ↔
      Generator.generateAll record pins (gs.map Generated.generator) = .error fault := by
  match gs with
  | [] => simp [Generated.concat, Generator.generate]
  | [g] =>
    rw [List.map_cons, List.map_nil, generateAll_cons_error]
    simp [Generated.concat, Generator.generateAll]
  | g :: h :: rest => simp [Generated.concat, Generator.generate]

mutual

/-- A composition fails only by the failure of one of its fields. -/
theorem generate_error (c : Composition)
    (fails : c.generated.generator.generate record pins = .error fault) :
    ∃ p, Part.field p ∈ c.parts ∧ p.resolve record pins = .error fault := by
  cases c with
  | constant text =>
    simp [Composition.generated, Generated.constant, Generator.generate] at fails
  | field path =>
    rw [Composition.generated, Generated.field, Generator.generate] at fails
    refine ⟨path, by simp [Composition.parts], ?_⟩
    cases result : path.resolve record pins with
    | error e =>
      rw [result] at fails
      rw [Except.error.inj fails]
    | ok v =>
      rw [result] at fails
      cases fails
  | concat cs =>
    rw [Composition.generated, generate_concat_error] at fails
    rw [Composition.parts]
    exact generateAll_error cs fails

theorem generateAll_error (cs : List Composition)
    (fails : Generator.generateAll record pins
      ((Composition.generatedAll cs).map Generated.generator) = .error fault) :
    ∃ p, Part.field p ∈ Composition.partsAll cs ∧ p.resolve record pins = .error fault := by
  cases cs with
  | nil => simp [Composition.generatedAll, Generator.generateAll] at fails
  | cons c rest =>
    rw [Composition.generatedAll, List.map_cons, generateAll_cons_error] at fails
    simp only [Composition.partsAll, List.mem_append]
    rcases fails with here | ⟨-, later⟩
    · obtain ⟨p, mem, fails⟩ := generate_error c here
      exact ⟨p, .inl mem, fails⟩
    · obtain ⟨p, mem, fails⟩ := generateAll_error rest later
      exact ⟨p, .inr mem, fails⟩

end

end Failures

/-! ### Joins -/

section Joins

variable {record : Value}

theorem singleBoundary_eq_error {required : Requirements} {fault : Error} :
    singleBoundary record required = .error fault ↔
      (∃ x y rest, (boundaries record required).toList = x :: y :: rest ∧
        fault = .iteration (.severalLists (x :: y :: rest))) ∨
      ((boundaries record required).toList = [] ∧
        fault = .iteration (.noList required.toList)) := by
  unfold singleBoundary
  match (boundaries record required).toList with
  | [] => simp [eq_comm]
  | [x] => simp
  | x :: y :: rest => simp [eq_comm]

/-- Two boundaries are reported before anything is rendered. -/
theorem join_severalLists {data separator : Generated} {x y : FieldPath}
    (first : x ∈ boundaries record (data.requirements ∪ separator.requirements))
    (second : y ∈ boundaries record (data.requirements ∪ separator.requirements))
    (different : x ≠ y) :
    ∃ found, join data separator record = .error (.iteration (.severalLists found)) ∧
      x ∈ found ∧ y ∈ found := by
  refine ⟨(boundaries record (data.requirements ∪ separator.requirements)).toList, ?_, first,
    second⟩
  refine bind_eq_error.mpr (.inl (singleBoundary_eq_error.mpr (.inl ?_)))
  rw [SortedSet.mem_def] at first second
  match found : (boundaries record (data.requirements ∪ separator.requirements)).toList with
  | [] => simp [found] at first
  | [z] =>
    rw [found, List.mem_singleton] at first second
    exact absurd (first.trans second.symm) different
  | z :: w :: rest => exact ⟨z, w, rest, rfl, rfl⟩

/-- Without pins, a required path that does not go through the single boundary meets no list. -/
theorem resolve_ne_unpinnedList {required : Requirements} {b p : FieldPath} {path : String}
    (single : (boundaries record required).toList = [b]) (needed : p ∈ required)
    (aside : ¬ b.segments <+: p.segments) :
    p.resolve record ∅ ≠ .error (.field path .unpinnedList) := by
  intro fails
  obtain ⟨x, pre, -, ⟨items, leads⟩, -⟩ := FieldPath.resolve_unpinnedList.mp fails
  rw [FieldPath.resolve_unpinned] at leads
  exact aside (eq_boundary_of_list single needed pre leads ▸ pre)

/-- What a join reports about its fields, before anything is rendered. -/
inductive PlanFault : IterationFault → Prop where
  | noList (required : List FieldPath) : PlanFault (.noList required)
  | severalLists (found : List FieldPath) : PlanFault (.severalLists found)
  | varyingSeparator (path list : FieldPath) : PlanFault (.varyingSeparator path list)

/-- A join fails by planning, in its separator, or in its data for one of the elements. -/
theorem join_eq_error {data separator : Generated} {fault : Error}
    (fails : join data separator record = .error fault) :
    (∃ cause, fault = .iteration cause ∧ PlanFault cause) ∨
      ∃ b items, (boundaries record (data.requirements ∪ separator.requirements)).toList = [b] ∧
        b.resolve record ∅ = .ok (.list items) ∧
        (∀ p ∈ separator.requirements, ¬ b.segments <+: p.segments) ∧
        (separator.generator.generate record ∅ = .error fault ∨
          ∃ i item, items[i]? = some item ∧
            data.generator.generate record (Pins.single b i) = .error fault) := by
  rcases bind_eq_error.mp fails with planning | ⟨b, planned, -⟩
  · rcases singleBoundary_eq_error.mp planning with ⟨_, _, _, -, same⟩ | ⟨-, same⟩
    · exact .inl ⟨_, same, .severalLists _⟩
    · exact .inl ⟨_, same, .noList _⟩
  have single := singleBoundary_eq_ok.mp planned
  obtain ⟨proper, items, here⟩ := single_boundary_list single
  rw [join_planned single here] at fails
  split at fails
  · exact .inl ⟨_, (Except.error.inj fails).symm, .varyingSeparator _ _⟩
  · next fixed =>
    refine .inr ⟨b, items, single, here, (find?_varying_eq_none proper).mp fixed, ?_⟩
    rcases bind_eq_error.mp fails with glue | ⟨glue, -, fails⟩
    · exact .inl glue
    · have rendering := (bind_eq_error.mp fails).resolve_right (by rintro ⟨_, -, h⟩; cases h)
      obtain ⟨before, i, after, range, -, piece⟩ := mapM_eq_error.mp rendering
      have inside : i < items.length := by
        rw [← List.mem_range, range]
        simp
      exact .inr ⟨i, items[i], List.getElem?_eq_getElem inside, piece⟩

/-- If rendering a join meets a list, it is an element of the list that is iterated. -/
theorem join_unpinnedList {data separator : Composition} {path : String}
    (fails : join data.generated separator.generated record = .error (.field path .unpinnedList)) :
    ∃ b i item, Planned record (data.required ∪ separator.required) b i item ∧
      item.isList = true ∧ path = b.text ∧
      ∃ p ∈ data.required, b.segments <+: p.segments ∧ p ≠ b := by
  rcases join_eq_error fails with ⟨_, other, -⟩ | ⟨b, items, single, here, fixed, fails⟩
  · cases other
  simp only [requirements_generated] at single fixed
  rcases fails with glue | ⟨i, item, taken, piece⟩
  · obtain ⟨p, mem, fails⟩ := generate_error separator glue
    have needed := mem_required.mpr mem
    have reads : p ∈ data.required ∪ separator.required := SortedSet.mem_union.mpr (.inr needed)
    exact absurd fails (resolve_ne_unpinnedList single reads (fixed p needed))
  · obtain ⟨p, mem, fails⟩ := generate_error data piece
    have needed := mem_required.mpr mem
    have planned : Planned record (data.required ∪ separator.required) b i item :=
      ⟨single, items, here, taken⟩
    obtain ⟨list, pre, beyond, named⟩ :=
      (planned.unpinnedList (SortedSet.mem_union.mpr (.inl needed))).mp fails
    exact ⟨b, i, item, planned, list, named, p, needed, pre, beyond⟩

/-- Planning and resolving agree on lists with paths of their own. Where the fields reach a single
list, it is found without pins, and once it is pinned to an element, a field fails at a list exactly
if the element is itself a list that the field goes into; the error names the path that both have.
Two lists with different paths are reported before anything is rendered. And if rendering a join of
compositions meets a list all the same, that list is an element of the one it goes along. -/
theorem planning_agrees (record : Value) :
    (∀ (data separator : Requirements) (b : FieldPath),
      (boundaries record (data ∪ separator)).toList = [b] →
        ∃ items, b.resolve record ∅ = .ok (.list items) ∧
          ∀ p ∈ data, ∀ (i : Nat) (item : Value), items[i]? = some item → ∀ path : String,
            (p.resolve record (Pins.single b i) = .error (.field path .unpinnedList) ↔
              item.isList = true ∧ b.segments <+: p.segments ∧ p ≠ b ∧ path = b.text)) ∧
    (∀ data separator : Generated,
      ∀ x ∈ boundaries record (data.requirements ∪ separator.requirements),
      ∀ y ∈ boundaries record (data.requirements ∪ separator.requirements), x ≠ y →
        ∃ found, join data separator record = .error (.iteration (.severalLists found)) ∧
          x ∈ found ∧ y ∈ found) ∧
    (∀ (data separator : Composition) (path : String),
      join data.generated separator.generated record = .error (.field path .unpinnedList) →
        ∃ b items, (boundaries record (data.required ∪ separator.required)).toList = [b] ∧
          b.resolve record ∅ = .ok (.list items) ∧ path = b.text ∧
          (∃ item ∈ items, item.isList = true) ∧
          ∃ p ∈ data.required, b.segments <+: p.segments ∧ p ≠ b) := by
  refine ⟨?_, ?_, ?_⟩
  · intro data separator b single
    obtain ⟨-, items, here⟩ := single_boundary_list single
    refine ⟨items, here, ?_⟩
    intro p needed i item taken path
    have planned : Planned record (data ∪ separator) b i item := ⟨single, items, here, taken⟩
    exact planned.unpinnedList (SortedSet.mem_union.mpr (.inl needed))
  · intro data separator x first y second different
    exact join_severalLists first second different
  · intro data separator path fails
    obtain ⟨b, i, item, planned, list, named, reads⟩ := join_unpinnedList fails
    obtain ⟨items, here, taken⟩ := planned.element
    exact ⟨b, items, planned.single, here, named, ⟨item, List.mem_of_getElem? taken, list⟩, reads⟩

/-- A list whose first element is a list. -/
def nested : Value := .object [("a", .list [.list [.object [("x", .number (.int 1))]]])]

theorem planning_agrees_nested :
    (boundaries nested (.single ⟨["a", "x"]⟩ ∪ ∅)).toList = [⟨["a"]⟩] ∧
      (⟨["a", "x"]⟩ : FieldPath).resolve nested (Pins.single ⟨["a"]⟩ 0) =
        .error (.field ".a" .unpinnedList) := by
  have single : (boundaries nested (.single ⟨["a", "x"]⟩ ∪ ∅)).toList = [⟨["a"]⟩] := by
    decide +kernel
  obtain ⟨items, here, agree⟩ := (planning_agrees nested).1 _ ∅ _ single
  cases here
  exact ⟨single, (agree ⟨["a", "x"]⟩ (by simp) 0 _ rfl ".a").mpr ⟨rfl, by simp, by simp, rfl⟩⟩

/-- The fields reach the list alone, and yet a field into its element fails at a list. -/
theorem unplanned_list :
    ¬ ∀ (record : Value) (data separator : Requirements) (b : FieldPath) (items : List Value),
      (boundaries record (data ∪ separator)).toList = [b] →
        b.resolve record ∅ = .ok (.list items) →
          ∀ p ∈ data, ∀ i < items.length, ∀ path : String,
            p.resolve record (Pins.single b i) ≠ .error (.field path .unpinnedList) := by
  intro foreseen
  have single : (boundaries nested (.single ⟨["a", "x"]⟩ ∪ ∅)).toList = [⟨["a"]⟩] := by
    decide +kernel
  exact foreseen nested (.single ⟨["a", "x"]⟩) ∅ ⟨["a"]⟩ _ single rfl ⟨["a", "x"]⟩ (by simp) 0
    (by simp) ".a" rfl

end Joins

end Template

end Dialect
