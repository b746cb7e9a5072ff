import Dialect.Proofs.Template.Planning

/-!
The plan of a join can be carried out.

The single boundary is a list that is found without pins, so its length is known and each of its
elements can be pinned. A pin is refused only by what stands at its own path
(`FieldPath.resolve_misfit`), and there stands the list. Main statement: `plan_executable`.
-/

namespace Dialect

/-- The fault of a pin that does not fit what it should select from. -/
inductive Misfit : FieldFault → Prop where
  | notList : Misfit .pinnedNonList
  | range (index size : Nat) : Misfit (.outOfRange index size)

namespace FieldPath

variable {b p : FieldPath} {record : Value} {pins : Pins} {i : Nat} {path : String}
  {fault : FieldFault}

/-- A pin is refused by the member at its own path. -/
theorem resolve_misfit (fails : p.resolve record pins = .error (.field path fault))
    (misfit : Misfit fault) :
    ∃ x segment w child index, walk p.segments pins [] record x = .ok w ∧
      w.member? segment = some child ∧ pins.get? ⟨x ++ [segment]⟩ = some index ∧
      element index child = .error fault := by
  obtain ⟨x, segment, rest, w, place, cause, -, walked, halts, same⟩ := walk_error.mp fails
  obtain ⟨-, rfl⟩ := stopped_eq.mp same
  cases halts with
  | list | scalar | missing => cases misfit
  | @pin members child _ member refused =>
    rw [List.nil_append, select] at refused
    split at refused
    · cases refused
    · next index pinned => exact ⟨x, segment, _, child, index, walked, member, pinned, refused⟩

/-- Where nothing is pinned no pin is refused. -/
theorem fits_unpinned (fails : p.resolve record ∅ = .error (.field path fault)) :
    ¬ Misfit fault := by
  intro misfit
  obtain ⟨x, segment, _, _, index, -, -, pinned, -⟩ := resolve_misfit fails misfit
  rw [SortedMap.get?_empty] at pinned
  cases pinned

/-- A single pin is refused by what the route to it leads to. -/
theorem resolve_misfit_single
    (fails : p.resolve record (Pins.single b i) = .error (.field path fault))
    (misfit : Misfit fault) :
    ∃ v, record.descend? b.segments = some v ∧ element i v = .error fault := by
  obtain ⟨x, segment, w, child, index, walked, member, pinned, refused⟩ :=
    resolve_misfit fails misfit
  rw [get?_single] at pinned
  split at pinned
  · next here =>
    obtain rfl := Option.some.inj pinned
    -- the pin stands behind all that has been walked
    have free : ∀ y, y ≠ [] → y <+: x → (Pins.single b i).get? ⟨[] ++ y⟩ = none := by
      intro y _ pre
      rw [get?_single, if_neg]
      rintro rfl
      have short := pre.length_le
      have long := congrArg FieldPath.length here
      simp only [FieldPath.length, List.length_append, List.length_singleton, List.nil_append]
        at long
      omega
    have leads := (walk_free free).mp walked
    refine ⟨child, ?_, refused⟩
    rw [← here, Value.descend?_concat, leads, Option.bind_some, member]
  · cases pinned

end FieldPath

namespace Template

variable {record : Value} {required : Requirements} {b p : FieldPath} {i : Nat} {item : Value}

/-- The boundary itself resolves to the pinned element. -/
theorem Planned.resolve_pinned (planned : Planned record required b i item) :
    b.resolve record (Pins.single b i) = .ok item := by
  obtain ⟨items, here, taken⟩ := planned.element
  have under := (FieldPath.resolve_under planned.proper).mpr
    ⟨items, item, here, taken, FieldPath.resolve_unpinned.mpr (Value.descend?_nil item)⟩
  rwa [List.append_nil] at under

/-- The pin of an element fits, whatever path is resolved under it. -/
theorem Planned.fits (planned : Planned record required b i item) {path : String}
    {fault : FieldFault} (fails : p.resolve record (Pins.single b i) = .error (.field path fault)) :
    ¬ Misfit fault := by
  intro misfit
  obtain ⟨items, here, taken⟩ := planned.element
  obtain ⟨v, leads, refused⟩ := FieldPath.resolve_misfit_single fails misfit
  rw [FieldPath.resolve_unpinned] at here
  obtain rfl := Option.some.inj (here.symm.trans leads)
  rw [FieldPath.element, taken] at refused
  cases refused

/-- Besides planning, a join of compositions fails at a field only, and never by its pin. -/
theorem join_generated_error {data separator : Composition} {fault : Error}
    (fails : join data.generated separator.generated record = .error fault) :
    (∃ cause, fault = .iteration cause ∧ PlanFault cause) ∨
      ∃ path cause, fault = .field path cause ∧ ¬ Misfit cause := by
  rcases join_eq_error fails with planning | ⟨b, items, single, here, -, rendering⟩
  · exact .inl planning
  right
  rcases rendering with glue | ⟨i, item, taken, piece⟩
  · obtain ⟨p, -, stops⟩ := generate_error separator glue
    obtain ⟨path, cause, rfl⟩ := FieldPath.resolve_error stops
    exact ⟨path, cause, rfl, FieldPath.fits_unpinned stops⟩
  · obtain ⟨p, -, stops⟩ := generate_error data piece
    obtain ⟨path, cause, rfl⟩ := FieldPath.resolve_error stops
    have planned : Planned record _ b i item := ⟨single, items, here, taken⟩
    exact ⟨path, cause, rfl, planned.fits stops⟩

/-- The plan of a join can be carried out. The only boundary that fields reach is a list, found
without pins, so its length is known; each of its elements can be pinned, and then the boundary
resolves to the element, and no path fails by the pin. So a join with a plan goes straight on to its
texts, and what a join fails with is its planning, or what its separator fails with, or its data
under the pin of some element. Where these are compositions, that is at a field, and not because a
pin does not fit. -/
theorem plan_executable (record : Value) :
    (∀ (required : Requirements) (b : FieldPath), (boundaries record required).toList = [b] →
      ∃ items, b.resolve record ∅ = .ok (.list items) ∧ lengthAt record b = .ok items.length ∧
        ∀ (i : Nat) (item : Value), items[i]? = some item →
          b.resolve record (Pins.single b i) = .ok item ∧
          ∀ (p : FieldPath) (path : String) (fault : FieldFault),
            p.resolve record (Pins.single b i) = .error (.field path fault) → ¬ Misfit fault) ∧
    (∀ (data separator : Generated) (b : FieldPath) (items : List Value),
      (boundaries record (data.requirements ∪ separator.requirements)).toList = [b] →
        b.resolve record ∅ = .ok (.list items) →
          join data separator record =
            match separator.requirements.toList.find? fun p => p.prefixes.contains b with
            | some p => .error (.iteration (.varyingSeparator p b))
            | none => do
              let glue ← separator.generator.generate record ∅
              let texts ← pieces data.generator record b (List.range items.length)
              return .constant (glue.intercalate texts)) ∧
    (∀ (data separator : Generated) (fault : Error), join data separator record = .error fault →
      (∃ cause, fault = .iteration cause ∧ PlanFault cause) ∨
        separator.generator.generate record ∅ = .error fault ∨
        ∃ b i item, Planned record (data.requirements ∪ separator.requirements) b i item ∧
          data.generator.generate record (Pins.single b i) = .error fault) ∧
    (∀ (data separator : Composition) (fault : Error),
      join data.generated separator.generated record = .error fault →
        (∃ cause, fault = .iteration cause ∧ PlanFault cause) ∨
          ∃ path cause, fault = .field path cause ∧ ¬ Misfit cause) := by
  refine ⟨?_, ?_, ?_, ?_⟩
  · intro required b single
    obtain ⟨-, items, here⟩ := single_boundary_list single
    refine ⟨items, here, lengthAt_of_list here, fun i item taken => ?_⟩
    have planned : Planned record required b i item := ⟨single, items, here, taken⟩
    exact ⟨planned.resolve_pinned, fun p path fault => planned.fits⟩
  · intro data separator b items
    exact join_planned
  · intro data separator fault fails
    rcases join_eq_error fails with planning | ⟨b, items, single, here, -, rendering⟩
    · exact .inl planning
    · right
      rcases rendering with glue | ⟨i, item, taken, piece⟩
      · exact .inl glue
      · exact .inr ⟨b, i, item, ⟨single, items, here, taken⟩, piece⟩
  · intro data separator fault
    exact join_generated_error

/-- A street whose houses have a name or a number. -/
def houses : Value := .object [
  ("street", .object [("houses", .list [
    .object [("name", .text "Elm")],
    .object [("number", .number (.int 3))]])])]

theorem plan_executable_houses :
    (boundaries houses (.single ⟨["street", "houses", "name"]⟩)).toList = [⟨["street", "houses"]⟩] ∧
      ∃ items, (⟨["street", "houses"]⟩ : FieldPath).resolve houses ∅ = .ok (.list items) ∧
        (⟨["street", "houses"]⟩ : FieldPath).resolve houses (Pins.single ⟨["street", "houses"]⟩ 1) =
          .ok (.object [("number", .number (.int 3))]) := by
  have single : (boundaries houses (.single ⟨["street", "houses", "name"]⟩)).toList =
      [⟨["street", "houses"]⟩] := by
    decide +kernel
  obtain ⟨items, here, -, pinned⟩ := (plan_executable houses).1 _ _ single
  cases here
  exact ⟨single, _, rfl, (pinned 1 _ rfl).1⟩

end Template

end Dialect
