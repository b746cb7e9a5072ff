import Mathlib.Data.List.Induction
import Dialect.Proofs.Path.Discovery
import Dialect.Path.Resolve

/-!
What a path leads to, with and without a pin.

`Value.descend?` follows a route through objects only. Without pins a path resolves to what the
route leads to (`resolve_unpinned`). A walk asks for pins at the places it comes to, the non-empty
beginnings of its path, and nowhere else (`resolve_congr`). So a pin on a list that the path does
not go through changes nothing (`resolve_aside`); under a pin on a list that it goes through, the
rest of the path is followed inside the pinned element (`resolve_under`). A list boundary that is
the only one of its requirements is reached without pins (`single_boundary_list`).
-/

namespace Dialect

/-- What a route through objects leads to. -/
def Value.descend? : Value → List String → Option Value
  | v, [] => some v
  | v, segment :: rest => (v.member? segment).bind fun child => child.descend? rest

namespace Value

@[simp] theorem descend?_nil (v : Value) : v.descend? [] = some v := rfl

theorem descend?_append (v : Value) (x y : List String) :
    v.descend? (x ++ y) = (v.descend? x).bind fun w => w.descend? y := by
  induction x generalizing v with
  | nil => rfl
  | cons segment rest ih =>
    simp only [List.cons_append, descend?, Option.bind_assoc, ih]

theorem descend?_concat (v : Value) (x : List String) (segment : String) :
    v.descend? (x ++ [segment]) = (v.descend? x).bind (Value.member? segment) := by
  simp [descend?_append, descend?]

end Value

namespace FieldPath

variable {whole reached : List String} {pins other : Pins} {v w : Value}

/-- One step of the walk: into a member, then to its pinned element if its path is pinned. -/
theorem walk_cons_ok {segment : String} {rest : List String} :
    walk whole pins reached v (segment :: rest) = .ok w ↔
      ∃ child selected, v.member? segment = some child ∧
        select pins (reached ++ [segment]) child = .ok selected ∧
        walk whole pins (reached ++ [segment]) selected rest = .ok w := by
  cases v with
  | object members =>
    simp only [walk, Value.member?]
    cases members.lookup segment with
    | none => simp
    | some child =>
      cases chosen : select pins (reached ++ [segment]) child with
      | error fault => simp [chosen]
      | ok selected => simp [chosen]
  | null | bool | number | text | list => simp [walk, Value.member?]

/-- Where a walk leads does not depend on what is kept for its errors. -/
theorem walk_ok_whole {whole' segments : List String} :
    walk whole pins reached v segments = .ok w ↔ walk whole' pins reached v segments = .ok w := by
  induction segments generalizing reached v with
  | nil => rfl
  | cons segment rest ih => simp only [walk_cons_ok, ih]

/-- Where and why the walk cannot go on from a value: the place that the error names, and the
fault. -/
inductive Halts (pins : Pins) (reached : List String) (segment : String) :
    Value → (place : List String) → FieldFault → Prop where
  | list {items : List Value} : Halts pins reached segment (.list items) reached .unpinnedList
  | scalar {v : Value} (flat : v.isList = false) (closed : ∀ members, v ≠ .object members) :
      Halts pins reached segment v reached .intoScalar
  | missing {members : List (String × Value)} (absent : members.lookup segment = none) :
      Halts pins reached segment (.object members) (reached ++ [segment]) .noSuchField
  | pin {members : List (String × Value)} {child : Value} {fault : FieldFault}
      (member : members.lookup segment = some child)
      (refused : select pins (reached ++ [segment]) child = .error fault) :
      Halts pins reached segment (.object members) (reached ++ [segment]) fault

/-- The walk fails at its first step, or behind it. -/
theorem walk_cons_error {segment : String} {rest : List String} {e : Error} :
    walk whole pins reached v (segment :: rest) = .error e ↔
      (∃ place fault, Halts pins reached segment v place fault ∧ stopped whole place fault = e) ∨
        ∃ child selected, v.member? segment = some child ∧
          select pins (reached ++ [segment]) child = .ok selected ∧
          walk whole pins (reached ++ [segment]) selected rest = .error e := by
  have first {place : List String} {fault : FieldFault}
      (halts : Halts pins reached segment v place fault) :
      walk whole pins reached v (segment :: rest) = .error (stopped whole place fault) := by
    cases halts with
    | list => rfl
    | scalar flat closed =>
      cases v with
      | list items => cases flat
      | object members => exact absurd rfl (closed members)
      | null | bool | number | text => rfl
    | missing absent => simp only [walk, absent]
    | pin member refused => simp only [walk, member, refused]
  constructor
  · intro fails
    have here {place : List String} {fault : FieldFault}
        (halts : Halts pins reached segment v place fault) :
        ∃ place fault, Halts pins reached segment v place fault ∧ stopped whole place fault = e :=
      ⟨place, fault, halts, Except.error.inj ((first halts).symm.trans fails)⟩
    cases v with
    | object members =>
      cases member : members.lookup segment with
      | none => exact .inl (here (.missing member))
      | some child =>
        cases chosen : select pins (reached ++ [segment]) child with
        | error fault => exact .inl (here (.pin member chosen))
        | ok selected =>
          simp only [walk, member, chosen] at fails
          exact .inr ⟨child, selected, member, chosen, fails⟩
    | list items => exact .inl (here .list)
    | null | bool | number | text => exact .inl (here (.scalar rfl (by simp)))
  · rintro (⟨place, fault, halts, rfl⟩ | ⟨child, selected, member, chosen, fails⟩)
    · exact first halts
    · cases v with
      | object members =>
        rw [Value.member?] at member
        simp only [walk, member, chosen, fails]
      | null | bool | number | text | list => cases member

/-- The walk fails exactly if it gets to a value from which it cannot go on. -/
theorem walk_error {segments : List String} {e : Error} :
    walk whole pins reached v segments = .error e ↔
      ∃ x segment rest w place fault, segments = x ++ segment :: rest ∧
        walk whole pins reached v x = .ok w ∧ Halts pins (reached ++ x) segment w place fault ∧
        stopped whole place fault = e := by
  induction segments generalizing reached v with
  | nil => simp [walk]
  | cons segment rest ih =>
    rw [walk_cons_error]
    constructor
    · rintro (⟨place, fault, halts, same⟩ | ⟨child, selected, member, chosen, fails⟩)
      · refine ⟨[], segment, rest, v, place, fault, rfl, rfl, ?_, same⟩
        rwa [List.append_nil]
      · obtain ⟨x, next, behind, w, place, fault, rfl, walked, halts, same⟩ := ih.mp fails
        refine ⟨segment :: x, next, behind, w, place, fault, rfl, ?_, ?_, same⟩
        · exact walk_cons_ok.mpr ⟨child, selected, member, chosen, walked⟩
        · rwa [List.append_assoc] at halts
    · rintro ⟨x, next, behind, w, place, fault, split, walked, halts, same⟩
      cases x with
      | nil =>
        obtain ⟨rfl, rfl⟩ := List.cons.inj split
        cases walked
        rw [List.append_nil] at halts
        exact .inl ⟨place, fault, halts, same⟩
      | cons first x =>
        obtain ⟨rfl, rfl⟩ := List.cons.inj split
        obtain ⟨child, selected, member, chosen, walked⟩ := walk_cons_ok.mp walked
        refine .inr ⟨child, selected, member, chosen, ih.mpr ?_⟩
        exact ⟨x, next, behind, w, place, fault, rfl, walked, by rwa [List.append_assoc], same⟩

/-- Resolving fails at a path of its own. -/
theorem resolve_error {p : FieldPath} {record : Value} {e : Error}
    (fails : p.resolve record pins = .error e) : ∃ path fault, e = .field path fault := by
  obtain ⟨_, _, _, _, _, _, -, -, -, rfl⟩ := walk_error.mp fails
  exact ⟨_, _, rfl⟩

theorem get?_single {b p : FieldPath} {i : Nat} :
    (Pins.single b i).get? p = if p = b then some i else none := by
  rw [Pins.single, SortedMap.get?_insert, SortedMap.get?_empty]

theorem select_unpinned (free : pins.get? ⟨reached⟩ = none) : select pins reached v = .ok v := by
  rw [select, free]

/-- A pin is refused if it points behind the last element, or at something other than a list. -/
theorem select_error {fault : FieldFault} :
    select pins reached v = .error fault ↔
      ∃ index, pins.get? ⟨reached⟩ = some index ∧
        ((∃ items, v = .list items ∧ items.length ≤ index ∧
            fault = .outOfRange index items.length) ∨
          v.isList = false ∧ fault = .pinnedNonList) := by
  rw [select]
  cases pins.get? ⟨reached⟩ with
  | none => simp
  | some index =>
    cases v with
    | list items =>
      simp only [element, Option.some.injEq, exists_eq_left', Value.list.injEq, Value.isList,
        Bool.true_eq_false, false_and, or_false]
      cases taken : items[index]? with
      | none => simp [List.getElem?_eq_none_iff.mp taken, eq_comm]
      | some item =>
        have inside := (List.getElem?_eq_some_iff.mp taken).1
        simp [Nat.not_le.mpr inside]
    | null | bool | number | text | object => simp [element, Value.isList, eq_comm]

theorem select_pinned {i : Nat} {item : Value} :
    select (Pins.single ⟨reached⟩ i) reached v = .ok item ↔
      ∃ items, v = .list items ∧ items[i]? = some item := by
  simp only [select, get?_single, if_pos]
  cases v with
  | list items =>
    simp only [element, Value.list.injEq, exists_eq_left']
    cases items[i]? <;> simp
  | null | bool | number | text | object => simp [element]

/-- Where no pin stands on the way, the walk follows the route. -/
theorem walk_free {segments : List String}
    (free : ∀ x, x ≠ [] → x <+: segments → pins.get? ⟨reached ++ x⟩ = none) :
    walk whole pins reached v segments = .ok w ↔ v.descend? segments = some w := by
  induction segments generalizing reached v with
  | nil => simp [walk]
  | cons segment rest ih =>
    have here : pins.get? ⟨reached ++ [segment]⟩ = none :=
      free [segment] (by simp) (by simp)
    have later : ∀ x, x ≠ [] → x <+: rest →
        pins.get? ⟨reached ++ [segment] ++ x⟩ = none := by
      intro x _ pre
      rw [List.append_assoc]
      exact free (segment :: x) (by simp) (List.cons_prefix_cons.mpr ⟨rfl, pre⟩)
    rw [walk_cons_ok, Value.descend?, Option.bind_eq_some_iff]
    constructor
    · rintro ⟨child, selected, member, chosen, walked⟩
      rw [select_unpinned here] at chosen
      cases chosen
      exact ⟨child, member, (ih later).mp walked⟩
    · rintro ⟨child, member, descends⟩
      exact ⟨child, child, member, select_unpinned here, (ih later).mpr descends⟩

/-- A pin further on: the walk follows the route to the list, takes the pinned element, and follows
the rest of the route inside it. -/
theorem walk_through {y q : List String} {i : Nat} (ahead : y ≠ []) :
    walk whole (Pins.single ⟨reached ++ y⟩ i) reached v (y ++ q) = .ok w ↔
      ∃ items item, v.descend? y = some (.list items) ∧ items[i]? = some item ∧
        item.descend? q = some w := by
  induction y generalizing reached v with
  | nil => exact absurd rfl ahead
  | cons segment rest ih =>
    rw [List.cons_append, walk_cons_ok]
    cases rest with
    | nil =>
      -- the pin stands right here, and no path beyond it is as short as the pinned one
      have free : ∀ x, x ≠ [] → x <+: q →
          (Pins.single ⟨reached ++ [segment]⟩ i).get? ⟨reached ++ [segment] ++ x⟩ = none := by
        intro x nonempty _
        rw [get?_single, if_neg]
        simpa using nonempty
      simp only [List.nil_append, Value.descend?, Option.bind_fun_some]
      constructor
      · rintro ⟨child, selected, member, chosen, walked⟩
        obtain ⟨items, rfl, taken⟩ := select_pinned.mp chosen
        exact ⟨items, selected, member, taken, (walk_free free).mp walked⟩
      · rintro ⟨items, item, member, taken, descends⟩
        exact ⟨.list items, item, member, select_pinned.mpr ⟨items, rfl, taken⟩,
          (walk_free free).mpr descends⟩
    | cons next rest =>
      have here : (Pins.single ⟨reached ++ segment :: next :: rest⟩ i).get?
          ⟨reached ++ [segment]⟩ = none := by
        rw [get?_single, if_neg]
        simp
      have step (v : Value) := @ih (reached ++ [segment]) v (by simp)
      simp only [List.append_assoc, List.singleton_append] at step
      rw [Value.descend?]
      constructor
      · rintro ⟨child, selected, member, chosen, walked⟩
        rw [select_unpinned here] at chosen
        cases chosen
        obtain ⟨items, item, descends, taken, inside⟩ := (step _).mp walked
        exact ⟨items, item, by rw [member, Option.bind_some, descends], taken, inside⟩
      · rintro ⟨items, item, descends, taken, inside⟩
        obtain ⟨child, member, descends⟩ := Option.bind_eq_some_iff.mp descends
        exact ⟨child, child, member, select_unpinned here,
          (step _).mpr ⟨items, item, descends, taken, inside⟩⟩

/-- The walk reads no pins but those on its way. -/
theorem walk_congr {segments : List String}
    (agree : ∀ x, x ≠ [] → x <+: segments →
      pins.get? ⟨reached ++ x⟩ = other.get? ⟨reached ++ x⟩) :
    walk whole pins reached v segments = walk whole other reached v segments := by
  induction segments generalizing reached v with
  | nil => rfl
  | cons segment rest ih =>
    have here (child : Value) :
        select pins (reached ++ [segment]) child = select other (reached ++ [segment]) child := by
      rw [select, select, agree [segment] (by simp) (by simp)]
    have later (child : Value) :
        walk whole pins (reached ++ [segment]) child rest =
          walk whole other (reached ++ [segment]) child rest := by
      apply ih
      intro x _ pre
      rw [List.append_assoc]
      exact agree (segment :: x) (by simp) (List.cons_prefix_cons.mpr ⟨rfl, pre⟩)
    cases v with
    | object members => simp only [walk, here, later]
    | null | bool | number | text | list => rfl

variable {p b : FieldPath} {record : Value} {i : Nat}

/-- Resolving depends on pins only at the non-empty beginnings of the path. -/
theorem resolve_congr (agree : ∀ x ∈ p.prefixes, pins.get? x = other.get? x) :
    p.resolve record pins = p.resolve record other := by
  apply walk_congr
  intro x nonempty pre
  exact agree ⟨x⟩ (mem_prefixes.mpr ⟨nonempty, pre⟩)

theorem resolve_unpinned : p.resolve record ∅ = .ok w ↔ record.descend? p.segments = some w :=
  walk_free fun _ _ _ => rfl

/-- A path that does not go through the pinned list resolves as without the pin, also to errors. -/
theorem resolve_aside (aside : ¬ b.segments <+: p.segments) :
    p.resolve record (Pins.single b i) = p.resolve record ∅ := by
  apply resolve_congr
  intro x mem
  rw [get?_single, if_neg, SortedMap.get?_empty]
  rintro rfl
  exact aside (mem_prefixes.mp mem).2

/-- Under a pin on a list that the path goes through, the rest of the path is followed inside the
pinned element. -/
theorem resolve_under {q : List String} (proper : b.segments ≠ []) :
    FieldPath.resolve ⟨b.segments ++ q⟩ record (Pins.single b i) = .ok w ↔
      ∃ items item, b.resolve record ∅ = .ok (.list items) ∧ items[i]? = some item ∧
        FieldPath.resolve ⟨q⟩ item ∅ = .ok w := by
  have through : walk (b.segments ++ q) (Pins.single ⟨[] ++ b.segments⟩ i) [] record
      (b.segments ++ q) = .ok w ↔ _ := walk_through proper
  rw [List.nil_append] at through
  rw [resolve, through]
  simp only [resolve_unpinned]

end FieldPath

/-! ### Boundaries -/

section Boundaries

variable {record v : Value} {required : Requirements} {p b : FieldPath}

/-- What a route leads to is reached along it. -/
theorem Reaches.of_descend {x : List String} (leads : record.descend? x = some v) :
    Reaches record ⟨x⟩ v := by
  induction x using List.reverseRecOn generalizing v with
  | nil =>
    cases leads
    exact .record
  | append_singleton x segment ih =>
    rw [Value.descend?_concat, Option.bind_eq_some_iff] at leads
    obtain ⟨w, leads, member⟩ := leads
    exact (ih leads).member member

/-- What is reached along a path is what the route leads to, unless the route or a beginning of it
leads to a list. -/
theorem Reaches.descends (reached : Reaches record p v) :
    record.descend? p.segments = some v ∨
      ∃ x items, x ≠ [] ∧ x <+: p.segments ∧ record.descend? x = some (.list items) := by
  induction reached with
  | record => exact .inl rfl
  | @member p v child key _ member ih =>
    rcases ih with leads | ⟨x, items, proper, pre, leads⟩
    · exact .inl (by rw [FieldPath.child, Value.descend?_concat, leads, Option.bind_some, member])
    · exact .inr ⟨x, items, proper, pre.trans (List.prefix_append _ _), leads⟩
  | @element p items item _ proper _ ih =>
    rcases ih with leads | listed
    · refine .inr ⟨p.segments, items, fun none => ?_, List.prefix_refl _, leads⟩
      exact proper (congrArg FieldPath.mk none)
    · exact .inr listed

/-- A list that a required route leads to is a boundary. -/
theorem mem_boundaries_of_descend {x : List String} {items : List Value} (needed : p ∈ required)
    (proper : x ≠ []) (pre : x <+: p.segments) (leads : record.descend? x = some (.list items)) :
    (⟨x⟩ : FieldPath) ∈ boundaries record required :=
  mem_boundaries.mpr
    ⟨mem_prefixClosure.mpr ⟨proper, p, needed, pre⟩, items, .of_descend leads⟩

/-- The only boundary that requirements reach is a list, found without pins. -/
theorem single_boundary_list (single : (boundaries record required).toList = [b]) :
    b.segments ≠ [] ∧ ∃ items, b.resolve record ∅ = .ok (.list items) := by
  have only := SortedSet.toList_eq_singleton.mp single
  obtain ⟨closed, items, reached⟩ := mem_boundaries.mp ((only b).mpr rfl)
  obtain ⟨proper, q, needed, pre⟩ := mem_prefixClosure.mp closed
  refine ⟨proper, ?_⟩
  simp only [FieldPath.resolve_unpinned]
  rcases reached.descends with leads | ⟨x, outer, nonempty, before, leads⟩
  · exact ⟨items, leads⟩
  · -- the first list on the way is itself a boundary
    have found := mem_boundaries_of_descend needed nonempty (before.trans pre) leads
    exact ⟨outer, (only _).mp found ▸ leads⟩

end Boundaries

end Dialect
