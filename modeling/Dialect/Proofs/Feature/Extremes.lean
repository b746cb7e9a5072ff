import Dialect.Proofs.Feature.Order
import Dialect.Proofs.Sequence

/-!
Extremes of features.

The arguments of `max` and `min` are evaluated from left to right, and each is compared with the
best so far. What the loop keeps is that the best goes beyond all before it and nothing behind it
goes beyond the best (`Leads`), so that at the end it is the first of the values that no other goes
beyond. The loop stops at the first argument that has no value or cannot be compared
(`run_eq_error`). Main statement: `extremum_correct`.
-/

namespace Dialect.Feature

open Scalar

variable {record : Value} {side : Extreme} {kind : ScalarKind} {best candidate v : Scalar}
  {seen vs : List Scalar} {f : Feature} {fs : List Feature} {e : Error}

/-- The first of the values that no other goes beyond. -/
def FirstExtreme (side : Extreme) (vs : List Scalar) (v : Scalar) : Prop :=
  ∃ before after, vs = before ++ v :: after ∧
    (∀ w ∈ before ++ after, w.order v ≠ .ok side.wanted) ∧
    ∀ u ∈ before, ∃ w ∈ vs, w.order u = .ok side.wanted

/-- The features have these values, one by one. -/
def Values (record : Value) : List Feature → List Scalar → Prop :=
  List.Forall₂ fun f v => f.evaluate record = .ok v

/-- The values can be ordered among each other. -/
def OneKind (vs : List Scalar) : Prop :=
  ∃ kind, ∀ v ∈ vs, v.orderedKind? = some kind

/-! ### One comparison -/

theorem better_eq_ok :
    better side best candidate = .ok v ↔
      ∃ o, Ordered candidate best o ∧ (if o = side.wanted then candidate else best) = v := by
  simp only [better, map_eq_ok, order_eq_ok]

theorem better_eq_error :
    better side best candidate = .error e ↔ candidate.order best = .error e :=
  map_eq_error

/-- A comparison succeeds within a kind, and stays in it. -/
theorem better_kind (known : best.orderedKind? = some kind) :
    (∃ v, better side best candidate = .ok v) ↔ candidate.orderedKind? = some kind := by
  constructor
  · rintro ⟨v, made⟩
    obtain ⟨o, ordered, -⟩ := better_eq_ok.mp made
    obtain ⟨other, left, right⟩ := exists_ordered_iff.mp ⟨o, ordered⟩
    rw [left, ← right, known]
  · intro same
    obtain ⟨o, ordered⟩ := exists_ordered_iff.mpr ⟨kind, same, known⟩
    exact ⟨_, better_eq_ok.mpr ⟨o, ordered, rfl⟩⟩

theorem kind_of_better (known : best.orderedKind? = some kind)
    (made : better side best candidate = .ok v) : v.orderedKind? = some kind := by
  have same := (better_kind known).mp ⟨v, made⟩
  obtain ⟨o, -, rfl⟩ := better_eq_ok.mp made
  split
  · exact same
  · exact known

/-! ### What the loop keeps -/

/-- The value goes beyond all before it, and nothing behind it goes beyond the value. -/
def Leads (side : Extreme) (vs : List Scalar) (v : Scalar) : Prop :=
  ∃ before after, vs = before ++ v :: after ∧
    (∀ u ∈ before, Ordered v u side.wanted) ∧
    ∀ w ∈ after, ∃ o, Ordered w v o ∧ o ≠ side.wanted

theorem leads_single (side : Extreme) (v : Scalar) : Leads side [v] v :=
  ⟨[], [], rfl, by simp, by simp⟩

theorem swap_wanted_ne (side : Extreme) : side.wanted.swap ≠ side.wanted := by
  cases side <;> decide

/-- What is compared with the best so far either takes its place or stays behind it. -/
theorem Leads.concat (leads : Leads side seen best) (made : better side best candidate = .ok v) :
    Leads side (seen ++ [candidate]) v := by
  obtain ⟨before, after, rfl, exceeded, within⟩ := leads
  obtain ⟨o, ordered, rfl⟩ := better_eq_ok.mp made
  by_cases beyond : o = side.wanted
  · subst beyond
    rw [if_pos rfl]
    refine ⟨before ++ best :: after, [], rfl, ?_, by simp⟩
    intro u mem
    rcases List.mem_append.mp mem with mem | mem
    · -- the best goes beyond `u`, so `u` does not go beyond the best
      exact ordered.beyond_trans (exceeded u mem).swap (swap_wanted_ne side)
    · rcases List.mem_cons.mp mem with rfl | mem
      · exact ordered
      · obtain ⟨o', short, not⟩ := within u mem
        exact ordered.beyond_trans short not
  · rw [if_neg beyond]
    refine ⟨before, after ++ [candidate], by simp, exceeded, ?_⟩
    intro w mem
    rcases List.mem_append.mp mem with mem | mem
    · exact within w mem
    · rw [List.mem_singleton.mp mem]
      exact ⟨o, ordered, beyond⟩

theorem Leads.firstExtreme (leads : Leads side vs v) : FirstExtreme side vs v := by
  obtain ⟨before, after, rfl, exceeded, within⟩ := leads
  refine ⟨before, after, rfl, ?_, ?_⟩
  · intro w mem beyond
    rw [order_eq_ok] at beyond
    rcases List.mem_append.mp mem with mem | mem
    · exact swap_wanted_ne side ((exceeded w mem).swap.unique beyond)
    · obtain ⟨o, short, not⟩ := within w mem
      exact not (short.unique beyond)
  · intro u mem
    exact ⟨v, by simp, order_eq_ok.mpr (exceeded u mem)⟩

/-! ### The loop -/

theorem run_cons_eq_ok :
    evaluateExtremum record side (some best) (f :: fs) = .ok v ↔
      ∃ candidate next, f.evaluate record = .ok candidate ∧
        better side best candidate = .ok next ∧
        evaluateExtremum record side (some next) fs = .ok v := by
  rw [evaluateExtremum, bind_eq_ok]
  simp only [bind_eq_ok]
  exact ⟨fun ⟨c, evaluated, b, made, run⟩ => ⟨c, b, evaluated, made, run⟩,
    fun ⟨c, b, evaluated, made, run⟩ => ⟨c, evaluated, b, made, run⟩⟩

/-- A run that succeeds has met values of one kind, and ends with the leading one. -/
theorem leads_of_run (leads : Leads side seen best) (known : best.orderedKind? = some kind)
    (run : evaluateExtremum record side (some best) fs = .ok v) :
    ∃ vs, Values record fs vs ∧ (∀ w ∈ vs, w.orderedKind? = some kind) ∧
      Leads side (seen ++ vs) v := by
  induction fs generalizing seen best with
  | nil =>
    cases run
    exact ⟨[], .nil, by simp, by rwa [List.append_nil]⟩
  | cons f rest ih =>
    obtain ⟨candidate, next, evaluated, made, run⟩ := run_cons_eq_ok.mp run
    have same := (better_kind known).mp ⟨next, made⟩
    obtain ⟨vs, values, kinds, leading⟩ := ih (leads.concat made) (kind_of_better known made) run
    refine ⟨candidate :: vs, .cons evaluated values, ?_, ?_⟩
    · exact List.forall_mem_cons.mpr ⟨same, kinds⟩
    · rwa [List.append_assoc] at leading

/-- A run over values of the kind of the best so far succeeds. -/
theorem run_succeeds (known : best.orderedKind? = some kind) (values : Values record fs vs)
    (kinds : ∀ w ∈ vs, w.orderedKind? = some kind) :
    ∃ v, evaluateExtremum record side (some best) fs = .ok v := by
  induction values generalizing best with
  | nil => exact ⟨best, rfl⟩
  | @cons f candidate rest vs evaluated _ ih =>
    obtain ⟨same, kinds⟩ := List.forall_mem_cons.mp kinds
    obtain ⟨next, made⟩ : ∃ next, better side best candidate = .ok next :=
      (better_kind known).mpr same
    obtain ⟨v, run⟩ := ih (kind_of_better known made) kinds
    exact ⟨v, run_cons_eq_ok.mpr ⟨candidate, next, evaluated, made, run⟩⟩

/-- A run fails at the first argument that has no value or cannot be compared with the best so
far. -/
theorem run_eq_error :
    evaluateExtremum record side (some best) fs = .error e ↔
      ∃ before f after reached, fs = before ++ f :: after ∧
        evaluateExtremum record side (some best) before = .ok reached ∧
        (f.evaluate record = .error e ∨
          ∃ candidate, f.evaluate record = .ok candidate ∧
            candidate.order reached = .error e) := by
  induction fs generalizing best with
  | nil => simp [evaluateExtremum]
  | cons f rest ih =>
    rw [evaluateExtremum, bind_eq_error]
    simp only [bind_eq_error, better_eq_error]
    constructor
    · rintro (fails | ⟨candidate, evaluated, fails | ⟨next, made, fails⟩⟩)
      · exact ⟨[], f, rest, best, rfl, rfl, .inl fails⟩
      · exact ⟨[], f, rest, best, rfl, rfl, .inr ⟨candidate, evaluated, fails⟩⟩
      · obtain ⟨before, g, after, reached, rfl, run, stops⟩ := ih.mp fails
        refine ⟨f :: before, g, after, reached, rfl, ?_, stops⟩
        exact run_cons_eq_ok.mpr ⟨candidate, next, evaluated, made, run⟩
    · rintro ⟨before, g, after, reached, split, run, stops⟩
      cases before with
      | nil =>
        obtain ⟨rfl, rfl⟩ := List.cons.inj split
        cases run
        rcases stops with fails | ⟨candidate, evaluated, fails⟩
        · exact .inl fails
        · exact .inr ⟨candidate, evaluated, .inl fails⟩
      | cons h before =>
        obtain ⟨rfl, rfl⟩ := List.cons.inj split
        obtain ⟨candidate, next, evaluated, made, run⟩ := run_cons_eq_ok.mp run
        refine .inr ⟨candidate, evaluated, .inr ⟨next, made, ih.mpr ?_⟩⟩
        exact ⟨before, g, after, reached, rfl, run, stops⟩

/-! ### Extremes -/

theorem extremum_cons_eq_ok :
    (extremum side (f :: fs)).evaluate record = .ok v ↔
      ∃ first, f.evaluate record = .ok first ∧
        evaluateExtremum record side (some first) fs = .ok v := by
  rw [evaluate, evaluateExtremum, bind_eq_ok]

/-- An extreme that has a value has one for each argument, of one kind if there are several, and its
own is the first that no other goes beyond. -/
theorem firstExtreme_of_extremum (made : (extremum side fs).evaluate record = .ok v) :
    ∃ vs, Values record fs vs ∧ (2 ≤ vs.length → OneKind vs) ∧ FirstExtreme side vs v := by
  cases fs with
  | nil => cases made
  | cons f rest =>
    obtain ⟨first, evaluated, run⟩ := extremum_cons_eq_ok.mp made
    cases rest with
    | nil =>
      cases run
      exact ⟨[v], .cons evaluated .nil, by simp, (leads_single side v).firstExtreme⟩
    | cons g rest =>
      obtain ⟨candidate, next, compared, made, -⟩ := run_cons_eq_ok.mp run
      obtain ⟨o, ordered, -⟩ := better_eq_ok.mp made
      obtain ⟨kind, -, known⟩ := exists_ordered_iff.mp ⟨o, ordered⟩
      obtain ⟨vs, values, kinds, leading⟩ := leads_of_run (leads_single side first) known run
      refine ⟨first :: vs, .cons evaluated values, fun _ => ⟨kind, ?_⟩, leading.firstExtreme⟩
      exact List.forall_mem_cons.mpr ⟨known, kinds⟩

/-- Values of one kind have an extreme, and a single value is its own. -/
theorem extremum_succeeds (some_ : fs ≠ []) (values : Values record fs vs)
    (kinds : 2 ≤ vs.length → OneKind vs) : ∃ v, (extremum side fs).evaluate record = .ok v := by
  cases values with
  | nil => exact absurd rfl some_
  | @cons f first rest vs evaluated values =>
    cases values with
    | nil => exact ⟨first, extremum_cons_eq_ok.mpr ⟨first, evaluated, rfl⟩⟩
    | @cons g second rest vs compared values =>
      obtain ⟨kind, all⟩ := kinds (by simp)
      obtain ⟨known, kinds⟩ := List.forall_mem_cons.mp all
      obtain ⟨v, run⟩ : ∃ v, evaluateExtremum record side (some first) (g :: rest) = .ok v :=
        run_succeeds known (.cons compared values) kinds
      exact ⟨v, extremum_cons_eq_ok.mpr ⟨first, evaluated, run⟩⟩

/-- Without arguments there is nothing to choose from. Otherwise the error is that of the first
argument that has no value, or cannot be compared with the extreme of those before it. -/
theorem extremum_eq_error :
    (extremum side fs).evaluate record = .error e ↔
      (fs = [] ∧ e = .typeMismatch .noArguments) ∨
      (∃ f rest, fs = f :: rest ∧ f.evaluate record = .error e) ∨
      ∃ before f after best, fs = before ++ f :: after ∧
        (extremum side before).evaluate record = .ok best ∧
        (f.evaluate record = .error e ∨
          ∃ candidate, f.evaluate record = .ok candidate ∧ candidate.order best = .error e) := by
  cases fs with
  | nil => simp [evaluate, evaluateExtremum, eq_comm]
  | cons f rest =>
    rw [evaluate, evaluateExtremum, bind_eq_error]
    constructor
    · rintro (fails | ⟨first, evaluated, fails⟩)
      · exact .inr (.inl ⟨f, rest, rfl, fails⟩)
      · obtain ⟨before, g, after, reached, rfl, run, stops⟩ := run_eq_error.mp fails
        refine .inr (.inr ⟨f :: before, g, after, reached, rfl, ?_, stops⟩)
        exact extremum_cons_eq_ok.mpr ⟨first, evaluated, run⟩
    · rintro (⟨none, -⟩ | ⟨g, rest, same, fails⟩ | ⟨before, g, after, best, split, made, stops⟩)
      · cases none
      · obtain ⟨rfl, rfl⟩ := List.cons.inj same
        exact .inl fails
      · cases before with
        | nil => cases made
        | cons h before =>
          obtain ⟨rfl, rfl⟩ := List.cons.inj split
          obtain ⟨first, evaluated, run⟩ := extremum_cons_eq_ok.mp made
          refine .inr ⟨first, evaluated, run_eq_error.mpr ?_⟩
          exact ⟨before, g, after, best, rfl, run, stops⟩

/-- Extremes are what their name says. One has a value exactly if there are arguments, each has a
value, and several values are of one kind that has an order; it is then the first of them that no
other goes beyond, and of a single argument just its value. Otherwise the error is the first that is
met from left to right, evaluating each argument and then comparing it with the best so far. -/
theorem extremum_correct (record : Value) (side : Extreme) (fs : List Feature) :
    ((∃ v, (extremum side fs).evaluate record = .ok v) ↔
      fs ≠ [] ∧ ∃ vs, Values record fs vs ∧ (2 ≤ vs.length → OneKind vs)) ∧
    (∀ v, (extremum side fs).evaluate record = .ok v →
      ∃ vs, Values record fs vs ∧ FirstExtreme side vs v) ∧
    (∀ f, (extremum side [f]).evaluate record = f.evaluate record) ∧
    (∀ e, (extremum side fs).evaluate record = .error e ↔
      (fs = [] ∧ e = .typeMismatch .noArguments) ∨
      (∃ f rest, fs = f :: rest ∧ f.evaluate record = .error e) ∨
      ∃ before f after best, fs = before ++ f :: after ∧
        (extremum side before).evaluate record = .ok best ∧
        (f.evaluate record = .error e ∨
          ∃ candidate, f.evaluate record = .ok candidate ∧
            candidate.order best = .error e)) := by
  refine ⟨⟨?_, ?_⟩, ?_, ?_, fun e => extremum_eq_error⟩
  · rintro ⟨v, made⟩
    obtain ⟨vs, values, kinds, -⟩ := firstExtreme_of_extremum made
    refine ⟨?_, vs, values, kinds⟩
    rintro rfl
    cases made
  · rintro ⟨some_, vs, values, kinds⟩
    exact extremum_succeeds some_ values kinds
  · intro v made
    obtain ⟨vs, values, -, first⟩ := firstExtreme_of_extremum made
    exact ⟨vs, values, first⟩
  · intro f
    rw [evaluate, evaluateExtremum]
    cases f.evaluate record <;> rfl

/-- A story that nobody likes yet. -/
def unliked : Value := .object [("likes", .number (.int 0)), ("title", .text "Elm")]

/-- Of the two zeros the first is taken, and the field that is missing is not reached. -/
theorem extremum_correct_zeros :
    (∃ vs, Values unliked [.number (-1), .number (-0.0), .field ⟨["likes"]⟩] vs ∧
      FirstExtreme .max vs (.number (-0.0))) ∧
    (extremum .min [.field ⟨["likes"]⟩, .field ⟨["title"]⟩, .field ⟨["rating"]⟩]).evaluate unliked =
      .error (.typeMismatch (.incomparable .text .number)) := by
  constructor
  · exact (extremum_correct unliked .max _).2.1 _ rfl
  · refine ((extremum_correct unliked .min _).2.2.2 _).mpr (.inr (.inr ?_))
    exact ⟨[.field ⟨["likes"]⟩], .field ⟨["title"]⟩, [.field ⟨["rating"]⟩], .number 0, rfl, rfl,
      .inr ⟨.text "Elm", rfl, rfl⟩⟩

end Dialect.Feature
