import Dialect.Proofs.Feature.Order
import Dialect.Proofs.Query.Algebra

/-!
Comparators over a whole dataset.

For an entry for which two features have values in an order, all comparators answer by that order,
equality too, whichever feature stands on the left. For any other entry all but equality fail. So
the comparators succeed on the same datasets, or fail at the same entry, and what they select fits
together. Main statement: `comparators_agree`.
-/

namespace Dialect.Query

open Scalar

variable {engine : Engine} {left right : Feature} {record : Value} {c : Comparator} {o : Ordering}
  {a b : Scalar}

/-- What the comparison of two features selects from the dataset. -/
def comparing (engine : Engine) (left : Feature) (c : Comparator) (right : Feature) :
    Except Error Selection :=
  (engine.evaluateExpr (.comparison left c right)).result

/-! ### One entry -/

/-- The features have values for the record, and these stand to each other in an order. -/
def Settled (left right : Feature) (record : Value) (o : Ordering) : Prop :=
  ∃ a b, left.evaluate record = .ok a ∧ right.evaluate record = .ok b ∧ Ordered a b o

theorem Settled.swap (settled : Settled left right record o) :
    Settled right left record o.swap := by
  obtain ⟨a, b, valueLeft, valueRight, ordered⟩ := settled
  exact ⟨b, a, valueRight, valueLeft, ordered.swap⟩

/-- All comparators but equality ask for the order of the scalars. -/
theorem holds_of_ne_equal (needs : c ≠ .equal) : c.holds a b = (a.order b).map c.accepts := by
  cases c with
  | equal => exact absurd rfl needs
  | less | lessOrEqual | greater | greaterOrEqual => rfl

/-- Between scalars in an order every comparator answers by the order, equality too. -/
theorem holds_of_ordered (ordered : Ordered a b o) (c : Comparator) :
    c.holds a b = .ok (c.accepts o) := by
  by_cases equality : c = .equal
  · subst equality
    have same : a.same b = (o == .eq) := by
      rw [Bool.eq_iff_iff, ordered.same_iff, beq_iff_eq]
    exact congrArg Except.ok same
  · rw [holds_of_ne_equal equality, order_eq_ok.mpr ordered]
    rfl

theorem Settled.compare (settled : Settled left right record o) (c : Comparator) :
    Engine.compare left c right record = .ok (c.accepts o) := by
  obtain ⟨a, b, valueLeft, valueRight, ordered⟩ := settled
  rw [Engine.compare, valueLeft]
  change (right.evaluate record >>= fun r => c.holds a r) = _
  rw [valueRight]
  exact holds_of_ordered ordered c

/-- Without an order all comparators but equality fail. -/
theorem compare_fails (unsettled : ∀ o, ¬ Settled left right record o) (needs : c ≠ .equal) :
    ∃ cause, Engine.compare left c right record = .error cause := by
  cases result : Engine.compare left c right record with
  | error cause => exact ⟨cause, rfl⟩
  | ok answer =>
    obtain ⟨a, valueLeft, result⟩ := bind_eq_ok.mp result
    obtain ⟨b, valueRight, result⟩ := bind_eq_ok.mp result
    rw [holds_of_ne_equal needs] at result
    obtain ⟨o, ordered, -⟩ := map_eq_ok.mp result
    exact absurd ⟨a, b, valueLeft, valueRight, order_eq_ok.mp ordered⟩ (unsettled o)

/-- Equality fails by a feature without a value only. -/
theorem compare_equal_error {cause : Error}
    (fails : Engine.compare left .equal right record = .error cause) :
    left.evaluate record = .error cause ∨ right.evaluate record = .error cause := by
  rcases bind_eq_error.mp fails with first | ⟨a, -, fails⟩
  · exact .inl first
  · rcases bind_eq_error.mp fails with second | ⟨b, -, fails⟩
    · exact .inr second
    · cases fails

/-! ### All entries -/

/-- The features are settled for each entry, in these orders. -/
def SettledAll (left right : Feature) : List (String × Value) → List Ordering → Prop :=
  List.Forall₂ fun entry o => Settled left right entry.2 o

theorem SettledAll.swap {entries : List (String × Value)} {orders : List Ordering}
    (settled : SettledAll left right entries orders) :
    SettledAll right left entries (orders.map Ordering.swap) :=
  List.forall₂_map_right_iff.mpr (settled.imp fun _ _ => Settled.swap)

/-- Either the features are settled for all entries, or there is a first for which they are not. -/
theorem settled_or_first (left right : Feature) (entries : List (String × Value)) :
    (∃ orders, SettledAll left right entries orders) ∨
      ∃ before entry after, entries = before ++ entry :: after ∧
        (∀ x ∈ before, ∃ o, Settled left right x.2 o) ∧ ∀ o, ¬ Settled left right entry.2 o := by
  induction entries with
  | nil => exact .inl ⟨[], .nil⟩
  | cons entry rest ih =>
    by_cases here : ∃ o, Settled left right entry.2 o
    · rcases ih with ⟨orders, settled⟩ | ⟨before, first, after, rfl, good, unsettled⟩
      · obtain ⟨o, here⟩ := here
        exact .inl ⟨o :: orders, .cons here settled⟩
      · exact .inr ⟨entry :: before, first, after, rfl, List.forall_mem_cons.mpr ⟨here, good⟩,
          unsettled⟩
    · exact .inr ⟨[], entry, rest, rfl, by simp, not_exists.mp here⟩

theorem comparing_eq_mapM (engine : Engine) (left : Feature) (c : Comparator) (right : Feature) :
    comparing engine left c right =
      engine.dataset.toList.mapM (Engine.compareEntry left c right) := rfl

theorem comparing_settled {orders : List Ordering}
    (settled : SettledAll left right engine.dataset.toList orders) (c : Comparator) :
    comparing engine left c right = .ok (orders.map c.accepts) := by
  rw [comparing_eq_mapM, mapM_eq_ok, List.forall₂_map_right_iff]
  apply settled.imp
  intro entry o here
  exact compareEntry_ok.mpr (here.compare c)

/-- All comparators but equality fail at the first entry that is not settled. -/
theorem comparing_unsettled {before after : List (String × Value)} {entry : String × Value}
    (split : engine.dataset.toList = before ++ entry :: after)
    (good : ∀ x ∈ before, ∃ o, Settled left right x.2 o)
    (unsettled : ∀ o, ¬ Settled left right entry.2 o) (needs : c ≠ .equal) :
    ∃ cause, comparing engine left c right = .error (.evaluation entry.1 cause) := by
  obtain ⟨cause, fails⟩ := compare_fails unsettled needs
  refine ⟨cause, mapM_eq_error.mpr ⟨before, entry, after, split, ?_, ?_⟩⟩
  · intro x mem
    obtain ⟨o, here⟩ := good x mem
    exact ⟨_, compareEntry_ok.mpr (here.compare c)⟩
  · exact compareEntry_error.mpr ⟨cause, fails, rfl⟩

/-! ### Orders and what comparators accept -/

theorem accepts_greater_swap (o : Ordering) :
    Comparator.greater.accepts o.swap = Comparator.less.accepts o := by
  cases o <;> rfl

theorem complement_accepts_greater (orders : List Ordering) :
    Selection.complement (orders.map Comparator.greater.accepts) =
      orders.map Comparator.lessOrEqual.accepts := by
  rw [Selection.complement, List.map_map]
  apply List.map_congr_left
  intro o _
  cases o <;> rfl

theorem complement_accepts_less (orders : List Ordering) :
    Selection.complement (orders.map Comparator.less.accepts) =
      orders.map Comparator.greaterOrEqual.accepts := by
  rw [Selection.complement, List.map_map]
  apply List.map_congr_left
  intro o _
  cases o <;> rfl

/-- Comparators of which just one accepts each order. -/
def exclusive : List Comparator := [.less, .equal, .greater]

theorem existsUnique_accepts (o : Ordering) : ∃! c, c ∈ exclusive ∧ c.accepts o = true := by
  cases o with
  | lt => exact ⟨.less, by decide, by rintro (_ | _ | _ | _ | _) <;> decide⟩
  | eq => exact ⟨.equal, by decide, by rintro (_ | _ | _ | _ | _) <;> decide⟩
  | gt => exact ⟨.greater, by decide, by rintro (_ | _ | _ | _ | _) <;> decide⟩

theorem mem_ids_accepts {orders : List Ordering} {d : Dataset} {id : String} {k : Nat}
    (place : d.ids[k]? = some id) (here : orders[k]? = some o) :
    id ∈ Selection.ids (orders.map c.accepts) d ↔ c.accepts o = true := by
  rw [Selection.mem_ids_of_place place, List.getElem?_map, here]
  simp

/-- Comparators agree with one another. For any two features, either all of them succeed: then `<`
selects what `>` selects the other way round, `≤` and `≥` select what `>` and `<` leave, and each id
is selected by just one of `<`, `=` and `>`. Or all but equality fail, naming the same id, also the
other way round. Equality fails only where one of the features has no value. -/
theorem comparators_agree (engine : Engine) (left right : Feature) :
    ((∃ selected : Comparator → Selection,
        (∀ c, comparing engine left c right = .ok (selected c)) ∧
        comparing engine right .greater left = .ok (selected .less) ∧
        selected .lessOrEqual = (selected .greater).complement ∧
        selected .greaterOrEqual = (selected .less).complement ∧
        ∀ id ∈ engine.allIds,
          ∃! c, c ∈ exclusive ∧ id ∈ (selected c).ids engine.dataset) ∨
      ∃ id ∈ engine.allIds, ∀ c, c ≠ .equal →
        (∃ cause, comparing engine left c right = .error (.evaluation id cause)) ∧
        ∃ cause, comparing engine right c left = .error (.evaluation id cause)) ∧
    ∀ e, comparing engine left .equal right = .error e →
      ∃ id record cause, engine.dataset.get? id = some record ∧ e = .evaluation id cause ∧
        (left.evaluate record = .error cause ∨ right.evaluate record = .error cause) := by
  constructor
  · rcases settled_or_first left right engine.dataset.toList with
      ⟨orders, settled⟩ | ⟨before, entry, after, split, good, unsettled⟩
    · refine .inl ⟨fun c => orders.map c.accepts, comparing_settled settled, ?_,
        (complement_accepts_greater orders).symm, (complement_accepts_less orders).symm, ?_⟩
      · rw [comparing_settled settled.swap, List.map_map]
        exact congrArg Except.ok (List.map_congr_left fun o _ => accepts_greater_swap o)
      · intro id mem
        obtain ⟨k, place⟩ := List.mem_iff_getElem?.mp mem
        have inside : k < orders.length := by
          rw [← settled.length_eq]
          have bound := (List.getElem?_eq_some_iff.mp place).1
          rwa [Engine.allIds, Selection.length_dataset_ids] at bound
        simp only [mem_ids_accepts place (List.getElem?_eq_getElem inside)]
        exact existsUnique_accepts _
    · right
      have mem : entry ∈ engine.dataset.toList := by simp [split]
      refine ⟨entry.1, List.mem_map_of_mem mem, ?_⟩
      intro c needs
      refine ⟨comparing_unsettled split good unsettled needs,
        comparing_unsettled split ?_ ?_ needs⟩
      · intro x before
        obtain ⟨o, here⟩ := good x before
        exact ⟨_, here.swap⟩
      · intro o here
        exact unsettled _ here.swap
  · intro e fails
    obtain ⟨before, entry, after, split, -, fails⟩ := mapM_eq_error.mp fails
    obtain ⟨cause, compared, rfl⟩ := compareEntry_error.mp fails
    refine ⟨entry.1, entry.2, cause, mem_toList.mp ?_, rfl, compare_equal_error compared⟩
    simp [split]

/-- Two stories, the second without a count of dislikes. -/
def halfCounted : Engine where
  dataset := .ofList [
    ("a", .object [("dislikes", .number (.int 3)), ("likes", .text "many")]),
    ("b", .object [("likes", .number (.int 1))])]
  vocabulary := { capabilities := .none, fragments := .empty }
  parser := fun _ => .ok []

/-- The first story has values of two kinds, which are not equal; the second has no value. -/
theorem comparators_agree_missing :
    comparing halfCounted (.field ⟨["likes"]⟩) .equal (.field ⟨["dislikes"]⟩) =
      .error (.evaluation "b" (.field ".dislikes" .noSuchField)) ∧
    ∃ id record cause, halfCounted.dataset.get? id = some record ∧
      Error.evaluation "b" (.field ".dislikes" .noSuchField) = .evaluation id cause ∧
      ((Feature.field ⟨["likes"]⟩).evaluate record = .error cause ∨
        (Feature.field ⟨["dislikes"]⟩).evaluate record = .error cause) := by
  have fails : comparing halfCounted (.field ⟨["likes"]⟩) .equal (.field ⟨["dislikes"]⟩) =
      .error (.evaluation "b" (.field ".dislikes" .noSuchField)) := rfl
  exact ⟨fails, (comparators_agree halfCounted _ _).2 _ fails⟩

end Dialect.Query
