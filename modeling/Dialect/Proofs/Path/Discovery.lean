import Mathlib.Algebra.BigOperators.Group.Multiset.Basic
import Mathlib.Algebra.Group.Nat.Defs
import Mathlib.Logic.Relation
import Mathlib.Order.WellFounded
import Dialect.Path.Boundary

/-!
Which list boundaries are found.

A list is reached along a path from the record by going into members and, at lists, into elements
(`Reaches`). Main statement: `boundaries_exact` (the boundaries that are found are the beginnings of
required paths along which lists are reached, in whatever order pending values are visited).

What a search can still find (`State.Finds`) is kept by each visit (`Step.finds`), so by every run,
and at the end it is what has been found. Only wanted paths are followed; nothing is cut off by
this, as the way to a path goes along its beginnings (`leads_iff`).
-/

namespace Dialect

open Relation (ReflTransGen)

/-- The value is met in the record along the path: the record along no segment, a member of an
object one segment further, an element of a list along the path of the list. A record that is a
list is not entered. -/
inductive Reaches (record : Value) : FieldPath → Value → Prop where
  | record : Reaches record .root record
  | member {p : FieldPath} {v child : Value} {key : String} :
      Reaches record p v → v.member? key = some child → Reaches record (p.child key) child
  | element {p : FieldPath} {items : List Value} {item : Value} :
      Reaches record p (.list items) → p ≠ .root → item ∈ items → Reaches record p item

variable {record v w : Value} {required wanted : Requirements} {found : SortedSet FieldPath}
  {p q : FieldPath}

theorem FieldPath.isRoot_iff : p.isRoot = true ↔ p = .root := by
  obtain ⟨segments⟩ := p
  simp [isRoot, root]

theorem FieldPath.child_ne_root (p : FieldPath) (key : String) : p.child key ≠ .root := by
  simp [child, root]

/-- The members that are gone through are those that look-ups find. -/
theorem Value.mem_entries {members : List (String × Value)} {key : String} :
    (key, v) ∈ entries members ↔ members.lookup key = some v := by
  induction members with
  | nil => simp [entries]
  | cons e rest ih =>
    obtain ⟨key', v'⟩ := e
    rw [SortedMap.lookup_cons_eq, entries, List.mem_cons, List.mem_filter, ih]
    by_cases same : key = key'
    · simp [same, eq_comm]
    · simp [same]

namespace Search

/-! ### One visit -/

/-- A visit leads from a list to its elements, and from an object to its members along wanted
paths. -/
theorem mem_onward :
    (q, w) ∈ onward wanted (p, v) ↔
      (p ≠ .root ∧ q = p ∧ ∃ items, v = .list items ∧ w ∈ items) ∨
        ∃ key, q = p.child key ∧ q ∈ wanted ∧ v.member? key = some w := by
  cases v with
  | list items =>
    simp only [onward, FieldPath.isRoot_iff, Value.member?, Value.list.injEq, exists_eq_left',
      reduceCtorEq, and_false, exists_const, or_false]
    split
    · next root => simp [root]
    · next proper =>
      simp only [List.mem_map, Prod.mk.injEq, ne_eq, proper, not_false_eq_true, true_and]
      constructor
      · rintro ⟨item, mem, rfl, rfl⟩
        exact ⟨rfl, mem⟩
      · rintro ⟨rfl, mem⟩
        exact ⟨w, mem, rfl, rfl⟩
  | object members =>
    simp only [onward, List.mem_filter, List.mem_map, Prod.exists, Prod.mk.injEq,
      Value.mem_entries, decide_eq_true_eq, Value.member?, reduceCtorEq, false_and, exists_const,
      and_false, false_or]
    constructor
    · rintro ⟨⟨key, child, here, rfl, rfl⟩, mem⟩
      exact ⟨key, rfl, mem, here⟩
    · rintro ⟨key, rfl, mem, here⟩
      exact ⟨⟨key, w, here, rfl, rfl⟩, mem⟩
  | null | bool | number | text => simp [onward, Value.member?]

/-- The path of a list is noted. -/
theorem mem_note {visit : Visit} :
    p ∈ note found visit ↔ p ∈ found ∨ p ≠ .root ∧ ∃ items, visit = (p, .list items) := by
  obtain ⟨q, v⟩ := visit
  cases v with
  | list items =>
    simp only [note, Value.isList, Bool.true_and, Bool.not_eq_true', Bool.eq_false_iff, ne_eq,
      FieldPath.isRoot_iff, Prod.mk.injEq, Value.list.injEq, exists_and_left, exists_eq', and_true]
    split
    · next proper =>
      rw [SortedSet.mem_insert]
      constructor
      · rintro (rfl | mem)
        · exact .inr ⟨proper, rfl⟩
        · exact .inl mem
      · rintro (mem | ⟨-, rfl⟩)
        · exact .inr mem
        · exact .inl rfl
    · next root =>
      refine ⟨.inl, ?_⟩
      rintro (mem | ⟨proper, rfl⟩)
      · exact mem
      · exact absurd proper root
  | null | bool | number | text | object => simp [note, Value.isList]

/-! ### Where visits lead -/

/-- Visits lead from one value to another. -/
def Leads (wanted : Requirements) : Visit → Visit → Prop :=
  ReflTransGen fun visit next => next ∈ onward wanted visit

/-- The way to the beginning of a required path goes along its beginnings. -/
theorem eq_root_or_mem_of_child {key : String} (mem : p.child key ∈ prefixClosure required) :
    p = .root ∨ p ∈ prefixClosure required := by
  obtain ⟨-, q, needed, pre⟩ := mem_prefixClosure.mp mem
  by_cases root : p = .root
  · exact .inl root
  · refine .inr (mem_prefixClosure.mpr ⟨?_, q, needed, (List.prefix_append _ _).trans pre⟩)
    intro none
    exact root (congrArg FieldPath.mk none)

/-- Along the beginnings of required paths, visits lead to just what is reached. -/
theorem leads_iff :
    Leads (prefixClosure required) (.root, record) (p, v) ↔
      Reaches record p v ∧ (p = .root ∨ p ∈ prefixClosure required) := by
  constructor
  · intro leads
    generalize last : (p, v) = visit at leads
    induction leads generalizing p v with
    | refl =>
      cases last
      exact ⟨.record, .inl rfl⟩
    | @tail middle visit _ step ih =>
      subst last
      obtain ⟨reached, known⟩ := @ih middle.2 middle.1 rfl
      rcases mem_onward.mp step with ⟨proper, same, items, list, mem⟩ | ⟨key, same, mem, member⟩
      · rw [list] at reached
        exact same ▸ ⟨reached.element proper mem, known⟩
      · exact same ▸ ⟨reached.member member, .inr (same ▸ mem)⟩
  · rintro ⟨reached, known⟩
    induction reached with
    | record => exact .refl
    | member _ member ih =>
      have mem := known.resolve_left (FieldPath.child_ne_root _ _)
      exact (ih (eq_root_or_mem_of_child mem)).tail (mem_onward.mpr (.inr ⟨_, rfl, mem, member⟩))
    | element _ proper mem ih =>
      exact (ih known).tail (mem_onward.mpr (.inl ⟨proper, rfl, _, rfl, mem⟩))

/-! ### Visits in any order -/

/-- A search on its way: the boundaries found so far, and what is still to be visited, in no
order. -/
structure State where
  found : SortedSet FieldPath
  pending : Multiset Visit

/-- Before the first visit, which is to the record. -/
def State.start (record : Value) : State := ⟨∅, {(.root, record)}⟩

/-- One visit, to any of the pending values. -/
inductive Step (wanted : Requirements) : State → State → Prop where
  | visit (found : SortedSet FieldPath) (visit : Visit) (rest : Multiset Visit) :
      Step wanted ⟨found, visit ::ₘ rest⟩ ⟨note found visit, ↑(onward wanted visit) + rest⟩

/-- A boundary has been found, or visits lead to a list along it. -/
def State.Finds (wanted : Requirements) (s : State) (p : FieldPath) : Prop :=
  p ∈ s.found ∨ p ≠ .root ∧ ∃ visit ∈ s.pending, ∃ items, Leads wanted visit (p, .list items)

variable {s t : State}

/-- A visit does not change what can be found. -/
theorem Step.finds (step : Step wanted s t) : t.Finds wanted p ↔ s.Finds wanted p := by
  obtain ⟨found, visit, rest⟩ := step
  have here : (∃ items, Leads wanted visit (p, .list items)) ↔
      (∃ items, visit = (p, .list items)) ∨
        ∃ next ∈ onward wanted visit, ∃ items, Leads wanted next (p, .list items) := by
    constructor
    · rintro ⟨items, leads⟩
      rcases leads.cases_head with same | ⟨next, mem, leads⟩
      · exact .inl ⟨items, same⟩
      · exact .inr ⟨next, mem, items, leads⟩
    · rintro (⟨items, rfl⟩ | ⟨next, mem, items, leads⟩)
      · exact ⟨items, .refl⟩
      · exact ⟨items, leads.head mem⟩
  simp only [State.Finds, mem_note, Multiset.mem_add, Multiset.mem_coe, Multiset.mem_cons,
    or_and_right, exists_or, exists_eq_left, here, and_or_left, or_assoc]

/-- Nor do any number of visits. -/
theorem finds_of_steps (steps : ReflTransGen (Step wanted) s t) :
    t.Finds wanted p ↔ s.Finds wanted p := by
  induction steps with
  | refl => rfl
  | tail _ step ih => exact step.finds.trans ih

/-- The number of values that can still be visited. -/
def State.load (s : State) : Nat := (s.pending.map fun visit => visit.2.size).sum

theorem State.load_stack (found : SortedSet FieldPath) (pending : List Visit) :
    State.load ⟨found, ↑pending⟩ = Search.load pending := by
  induction pending with
  | nil => rfl
  | cons visit pending ih =>
    rw [State.load] at ih ⊢
    rw [← Multiset.cons_coe, Multiset.map_cons, Multiset.sum_cons, ih, load_cons]

theorem Step.load_lt (step : Step wanted s t) : t.load < s.load := by
  obtain ⟨found, visit, rest⟩ := step
  have less := load_onward wanted visit
  rw [← State.load_stack found] at less
  simp only [State.load, Multiset.map_add, Multiset.sum_add, Multiset.map_cons,
    Multiset.sum_cons] at less ⊢
  exact Nat.add_lt_add_right less _

/-- Every search comes to an end. -/
theorem step_wellFounded (wanted : Requirements) : WellFounded fun t s => Step wanted s t :=
  (InvImage.wf State.load wellFounded_lt).mono fun _ _ step => step.load_lt

/-- A search has come to an end when nothing is pending. -/
theorem stuck_iff : (∀ t, ¬ Step wanted s t) ↔ s.pending = 0 := by
  obtain ⟨found, pending⟩ := s
  constructor
  · intro stuck
    induction pending using Multiset.induction with
    | empty => rfl
    | cons visit rest _ => exact absurd (.visit found visit rest) (stuck _)
  · rintro rfl t step
    generalize ended : (⟨found, 0⟩ : State) = s at step
    obtain ⟨found, visit, rest⟩ := step
    exact Multiset.cons_ne_zero (congrArg State.pending ended).symm

/-- Always visiting what is on top of the stack is one of the orders. -/
theorem steps_run (wanted : Requirements) (found : SortedSet FieldPath) (pending : List Visit) :
    ReflTransGen (Step wanted) ⟨found, ↑pending⟩ ⟨run wanted found pending, 0⟩ := by
  induction found, pending using run.induct wanted with
  | case1 found =>
    rw [run]
    exact .refl
  | case2 found visit pending ih =>
    rw [← Multiset.coe_add, Multiset.coe_reverse] at ih
    rw [run]
    exact ih.head (.visit found visit pending)

/-- In whatever order values are visited, what is found in the end is what can be reached from the
record. -/
theorem mem_found_of_steps
    (steps : ReflTransGen (Step (prefixClosure required)) (.start record) s)
    (done : s.pending = 0) :
    p ∈ s.found ↔ p ∈ prefixClosure required ∧ ∃ items, Reaches record p (.list items) := by
  have kept := finds_of_steps (p := p) steps
  simp only [State.Finds, State.start, done, Multiset.notMem_zero, false_and, exists_false,
    and_false, or_false, SortedSet.not_mem_empty, false_or, Multiset.mem_singleton,
    exists_eq_left, leads_iff] at kept
  rw [kept]
  constructor
  · rintro ⟨proper, items, reached, known⟩
    exact ⟨known.resolve_left proper, items, reached⟩
  · rintro ⟨mem, items, reached⟩
    refine ⟨?_, items, reached, .inr mem⟩
    rintro rfl
    exact (mem_prefixClosure.mp mem).1 rfl

theorem steps_boundaries (record : Value) (required : Requirements) :
    ReflTransGen (Step (prefixClosure required)) (.start record) ⟨boundaries record required, 0⟩ :=
  steps_run (prefixClosure required) ∅ [(.root, record)]

end Search

/-! ### What is found -/

theorem mem_boundaries :
    p ∈ boundaries record required ↔
      p ∈ prefixClosure required ∧ ∃ items, Reaches record p (.list items) :=
  Search.mem_found_of_steps (Search.steps_boundaries record required) rfl

/-- The boundaries are the non-empty beginnings of required paths along which a list is reached. -/
theorem mem_boundaries_iff :
    p ∈ boundaries record required ↔
      p ≠ .root ∧ (∃ q ∈ required, p.segments <+: q.segments) ∧
        ∃ items, Reaches record p (.list items) := by
  have proper : p ≠ .root ↔ p.segments ≠ [] := by
    rw [ne_eq, ← FieldPath.isRoot_iff, FieldPath.isRoot, List.isEmpty_iff]
  rw [mem_boundaries, mem_prefixClosure, proper, and_assoc]

/-- There is a single boundary if along just one such path a list is reached. -/
theorem single_boundary_iff {b : FieldPath} :
    (boundaries record required).toList = [b] ↔
      ∀ p : FieldPath, (p ≠ .root ∧ (∃ q ∈ required, p.segments <+: q.segments) ∧
        ∃ items, Reaches record p (.list items)) ↔ p = b := by
  simp only [SortedSet.toList_eq_singleton, mem_boundaries_iff]

/-- With more requirements there is more to find. -/
theorem boundaries_mono {more : Requirements} (sub : ∀ q ∈ required, q ∈ more)
    (mem : p ∈ boundaries record required) : p ∈ boundaries record more := by
  obtain ⟨known, reached⟩ := mem_boundaries.mp mem
  obtain ⟨proper, q, needed, pre⟩ := mem_prefixClosure.mp known
  exact mem_boundaries.mpr ⟨mem_prefixClosure.mpr ⟨proper, q, sub q needed, pre⟩, reached⟩

/-- What requirements reach together is what either of them reach. -/
theorem boundaries_union (record : Value) (required more : Requirements) :
    boundaries record (required ∪ more) = boundaries record required ∪ boundaries record more := by
  apply SortedSet.ext
  intro p
  simp only [SortedSet.mem_union, mem_boundaries, mem_prefixClosure, or_and_right, exists_or,
    and_or_left]

/-- Looking for boundaries finds them all and nothing else. For every record:

* the boundaries that are found are the non-empty beginnings of required paths along which a list
  is reached;
* in whatever order pending values are visited, the search comes to an end, and it ends with these
  boundaries;
* more requirements have more boundaries, and those of two sets of requirements together are those
  of either. -/
theorem boundaries_exact (record : Value) :
    (∀ (required : Requirements) (p : FieldPath), p ∈ boundaries record required ↔
      p ≠ .root ∧ (∃ q ∈ required, p.segments <+: q.segments) ∧
        ∃ items, Reaches record p (.list items)) ∧
    (∀ required : Requirements,
      (WellFounded fun t s => Search.Step (prefixClosure required) s t) ∧
      ∀ last : Search.State,
        ReflTransGen (Search.Step (prefixClosure required)) (.start record) last ∧
            (∀ t, ¬ Search.Step (prefixClosure required) last t) ↔
          last = ⟨boundaries record required, 0⟩) ∧
    (∀ required more : Requirements, (∀ q ∈ required, q ∈ more) →
      ∀ p ∈ boundaries record required, p ∈ boundaries record more) ∧
    ∀ required more : Requirements,
      boundaries record (required ∪ more) =
        boundaries record required ∪ boundaries record more := by
  refine ⟨fun required p => mem_boundaries_iff,
    fun required => ⟨Search.step_wellFounded _, fun last => ?_⟩,
    fun required more sub p mem => boundaries_mono sub mem, boundaries_union record⟩
  rw [Search.stuck_iff]
  constructor
  · rintro ⟨steps, done⟩
    have same : last.found = boundaries record required := by
      apply SortedSet.ext
      intro p
      rw [Search.mem_found_of_steps steps done, mem_boundaries]
    obtain ⟨found, pending⟩ := last
    obtain rfl : pending = 0 := done
    obtain rfl : found = boundaries record required := same
    rfl
  · rintro rfl
    exact ⟨Search.steps_boundaries record required, rfl⟩

/-- A record with a list in an element of a list, and one beside them. -/
def shelves : Value := .object [
  ("a", .list [.number (.int 1), .list [.object [("x", .list [])]]]),
  ("c", .list [])]

/-- The inner list is reached through an element, under the path that leads through both lists. -/
theorem boundaries_exact_shelves :
    (boundaries shelves (.single ⟨["a", "x"]⟩)).toList = [⟨["a"]⟩, ⟨["a", "x"]⟩] ∧
      (∃ items, Reaches shelves ⟨["a", "x"]⟩ (.list items)) ∧
      (⟨["a", "x"]⟩ : FieldPath) ∈
        boundaries shelves (.single ⟨["a", "x"]⟩ ∪ .single ⟨["c"]⟩) := by
  have found : (boundaries shelves (.single ⟨["a", "x"]⟩)).toList = [⟨["a"]⟩, ⟨["a", "x"]⟩] := by
    decide +kernel
  have mem : (⟨["a", "x"]⟩ : FieldPath) ∈ boundaries shelves (.single ⟨["a", "x"]⟩) := by
    rw [SortedSet.mem_def, found]
    simp
  obtain ⟨exact_, -, more, -⟩ := boundaries_exact shelves
  obtain ⟨-, -, reached⟩ := (exact_ _ _).mp mem
  exact ⟨found, reached, more _ _ (fun q needed => SortedSet.mem_union.mpr (.inl needed)) _ mem⟩

end Dialect
