import Dialect.Archive.Vocabulary
import Dialect.Proofs.Feature.Extremes
import Dialect.Proofs.Feature.Numbers
import Dialect.Proofs.Path.Resolution

/-!
The ratio of a story.

The ratio divides the count of likes by the count of dislikes, and each count is first raised to a
half if it is less. What is raised so is no zero (`atLeastHalf_ne_zero`), so the quotient always has
a divisor. A count that is missing or no number does not get that far: its field has no value, or it
cannot be compared with the half. Main statement: `ratio_defined`.
-/

namespace Dialect.Archive

open Feature Scalar

variable {record v : Value} {name : String} {s : Scalar} {e : Error} {x : Float}

/-- The float, or a half if it is less. -/
def atLeastHalf (x : Float) : Float := if x < 0.5 then 0.5 else x

/-- The record has a count under a name at its top: a number, which must not be a NaN. -/
def Counted (record : Value) (name : String) (n : Number) : Prop :=
  record.member? name = some (.number n) ∧ n.isNaN = false

/-- Why a record has no count under a name, with the error that says so. -/
inductive Uncounted (name : String) : Value → Error → Prop where
  | missing {members : List (String × Value)} (absent : members.lookup name = none) :
      Uncounted name (.object members) (.field ("." ++ name) .noSuchField)
  | list {items : List Value} :
      Uncounted name (.list items) (.field ("." ++ name) .unpinnedList)
  | scalar {v : Value} (flat : v.isList = false) (closed : ∀ members, v ≠ .object members) :
      Uncounted name v (.field ("." ++ name) .intoScalar)
  | otherKind {record v : Value} (member : record.member? name = some v)
      (other : v.kind ≠ .number) :
      Uncounted name record (.typeMismatch (.incomparable .number (Scalar.ofValue v).kind))
  | nan {record : Value} {n : Number} (member : record.member? name = some (.number n))
      (undefined : n.isNaN = true) :
      Uncounted name record (.typeMismatch .unordered)

/-! ### Raising to a half -/

theorem lt_iff_place {x y : Float} :
    x < y ↔ (x.isNaN || y.isNaN) = false ∧ compare (place x) (place y) = .lt := by
  rw [float_lt_iff, compare_floats]
  cases x.isNaN || y.isNaN <;> simp

theorem beq_iff_place {x y : Float} :
    (x == y) = true ↔ (x.isNaN || y.isNaN) = false ∧ compare (place x) (place y) = .eq := by
  rw [float_beq_iff, compare_floats]
  cases x.isNaN || y.isNaN <;> simp

/-- A zero would be less than a half, and so be raised. -/
theorem atLeastHalf_ne_zero (x : Float) : (atLeastHalf x == 0) = false := by
  rw [atLeastHalf]
  split
  · decide
  · next high =>
    rw [← Bool.not_eq_true, beq_iff_place]
    rintro ⟨real, same⟩
    have fine : x.isNaN = false := (Bool.or_eq_false_iff.mp real).1
    have placed : place x = place 0 := Std.LawfulEqOrd.eq_of_compare same
    refine high (lt_iff_place.mpr ⟨Bool.or_eq_false_iff.mpr ⟨fine, rfl⟩, ?_⟩)
    rw [placed]
    decide

/-- Half against a number: the number is raised. -/
theorem better_half_number {n : Number} (fine : n.isNaN = false) :
    better .max (ofValue (.number n)) (.number 0.5) = .ok (.number (atLeastHalf n.toFloat)) := by
  have real : n.toFloat.isNaN = false := (toFloat_isNaN n).trans fine
  have half : (0.5 : Float).isNaN = false := rfl
  have turned : compare (place 0.5) (place n.toFloat) =
      (compare (place n.toFloat) (place 0.5)).swap := Std.OrientedCmp.eq_swap
  refine better_eq_ok.mpr ⟨_, .number half real, ?_⟩
  rw [turned, atLeastHalf]
  simp only [lt_iff_place, real, half, Extreme.wanted]
  cases compare (place n.toFloat) (place 0.5) <;> rfl

/-- Only a number that is no NaN can be compared with a half. -/
theorem better_half_ok :
    better .max (ofValue v) (.number 0.5) = .ok s ↔
      ∃ n, v = .number n ∧ n.isNaN = false ∧ s = .number (atLeastHalf n.toFloat) := by
  constructor
  · intro made
    obtain ⟨o, ordered, -⟩ := better_eq_ok.mp made
    cases v with
    | number n =>
      cases ordered with
      | number _ real =>
        have fine : n.isNaN = false := (toFloat_isNaN n).symm.trans real
        rw [better_half_number fine] at made
        exact ⟨n, rfl, fine, (Except.ok.inj made).symm⟩
    | null | bool | text | list | object => cases ordered
  · rintro ⟨n, rfl, fine, rfl⟩
    exact better_half_number fine

theorem better_half_otherKind (other : v.kind ≠ .number) :
    better .max (ofValue v) (.number 0.5) =
      .error (.typeMismatch (.incomparable .number (ofValue v).kind)) := by
  cases v with
  | number => exact absurd rfl other
  | null | bool | text | list | object => rfl

theorem better_half_nan {n : Number} (undefined : n.isNaN = true) :
    better .max (ofValue (.number n)) (.number 0.5) = .error (.typeMismatch .unordered) := by
  have unordered : floatOrder? 0.5 n.toFloat = none := by
    rw [floatOrder?_eq, toFloat_isNaN, undefined, Bool.or_true]
    rfl
  rw [better, ofValue, order, unordered]
  rfl

/-! ### Floored counts -/

theorem floored_evaluate :
    (floored name).evaluate record =
      (FieldPath.resolve ⟨[name]⟩ record ∅) >>= fun v => better .max (ofValue v) (.number 0.5) := by
  simp only [floored, evaluate, evaluateExtremum]
  cases FieldPath.resolve ⟨[name]⟩ record ∅ with
  | error e => rfl
  | ok v =>
    change (better .max (ofValue v) (.number 0.5) >>= Except.ok) = better .max (ofValue v) _
    cases better .max (ofValue v) (.number 0.5) <;> rfl

theorem resolve_top :
    FieldPath.resolve ⟨[name]⟩ record ∅ = .ok v ↔ record.member? name = some v := by
  rw [FieldPath.resolve_unpinned, Value.descend?, Option.bind_eq_some_iff]
  simp [Value.descend?]

theorem floored_ok :
    (floored name).evaluate record = .ok s ↔
      ∃ n, Counted record name n ∧ s = .number (atLeastHalf n.toFloat) := by
  rw [floored_evaluate, bind_eq_ok]
  simp only [resolve_top, better_half_ok, Counted]
  constructor
  · rintro ⟨_, member, n, rfl, fine, same⟩
    exact ⟨n, ⟨member, fine⟩, same⟩
  · rintro ⟨n, ⟨member, fine⟩, same⟩
    exact ⟨_, member, n, rfl, fine, same⟩

theorem Uncounted.floored_error (uncounted : Uncounted name record e) :
    (floored name).evaluate record = .error e := by
  -- a field without a value fails at the place where the walk along its path stops
  have stops {place : List String} {fault : FieldFault}
      (halts : FieldPath.Halts ∅ [] name record place fault) :
      (floored name).evaluate record = .error (FieldPath.stopped [name] place fault) := by
    have fails : FieldPath.resolve ⟨[name]⟩ record ∅ =
        .error (FieldPath.stopped [name] place fault) :=
      FieldPath.walk_cons_error.mpr (.inl ⟨place, fault, halts, rfl⟩)
    rw [floored_evaluate, fails]
    rfl
  have text : FieldPath.text ⟨[name]⟩ = "." ++ name := by
    simp [FieldPath.text]
  cases uncounted with
  | missing absent =>
    rw [← text]
    exact stops (.missing absent)
  | list =>
    rw [← text]
    exact stops .list
  | scalar flat closed =>
    rw [← text]
    exact stops (.scalar flat closed)
  | otherKind member other =>
    rw [floored_evaluate, resolve_top.mpr member]
    exact better_half_otherKind other
  | nan member undefined =>
    rw [floored_evaluate, resolve_top.mpr member]
    exact better_half_nan undefined

/-- A record has a count under a name, or there is a reason why not. -/
theorem counted_or_uncounted (record : Value) (name : String) :
    (∃ n, Counted record name n) ∨ ∃ e, Uncounted name record e := by
  cases record with
  | object members =>
    cases member : members.lookup name with
    | none => exact .inr ⟨_, .missing member⟩
    | some v =>
      by_cases other : v.kind = .number
      · cases v with
        | number n =>
          cases fine : n.isNaN with
          | false => exact .inl ⟨n, member, fine⟩
          | true => exact .inr ⟨_, .nan member fine⟩
        | null | bool | text | list | object => cases other
      · exact .inr ⟨_, .otherKind member other⟩
  | list items => exact .inr ⟨_, .list⟩
  | null | bool | number | text => exact .inr ⟨_, .scalar rfl (by simp)⟩

theorem floored_eq_error :
    (floored name).evaluate record = .error e ↔ Uncounted name record e := by
  constructor
  · intro fails
    rcases counted_or_uncounted record name with ⟨n, counted⟩ | ⟨e', uncounted⟩
    · rw [floored_ok.mpr ⟨n, counted, rfl⟩] at fails
      cases fails
    · rw [uncounted.floored_error] at fails
      rwa [← Except.error.inj fails]
  · exact Uncounted.floored_error

/-! ### The ratio -/

/-- The ratio of two counts, each at least a half. -/
def ratioOf (likes dislikes : Number) : Float :=
  atLeastHalf likes.toFloat / atLeastHalf dislikes.toFloat

theorem ratio_ok {likes dislikes : String} :
    (Feature.binary .divide (floored likes) (floored dislikes)).evaluate record = .ok s ↔
      ∃ m n, Counted record likes m ∧ Counted record dislikes n ∧ s = .number (ratioOf m n) := by
  have divided (m n : Number) :
      Operator.divide.apply (.number (atLeastHalf m.toFloat)) (.number (atLeastHalf n.toFloat)) =
        .ok (.number (ratioOf m n)) := by
    rw [Operator.apply, atLeastHalf_ne_zero]
    rfl
  rw [evaluate, bind_eq_ok]
  simp only [bind_eq_ok, floored_ok]
  constructor
  · rintro ⟨_, ⟨m, liked, rfl⟩, _, ⟨n, disliked, rfl⟩, made⟩
    rw [divided] at made
    exact ⟨m, n, liked, disliked, (Except.ok.inj made).symm⟩
  · rintro ⟨m, n, liked, disliked, rfl⟩
    exact ⟨_, ⟨m, liked, rfl⟩, _, ⟨n, disliked, rfl⟩, divided m n⟩

theorem ratio_error {likes dislikes : String} :
    (Feature.binary .divide (floored likes) (floored dislikes)).evaluate record = .error e ↔
      Uncounted likes record e ∨ (∃ m, Counted record likes m) ∧ Uncounted dislikes record e := by
  rw [evaluate, bind_eq_error]
  simp only [bind_eq_error, floored_eq_error, floored_ok]
  constructor
  · rintro (fails | ⟨_, ⟨m, liked, rfl⟩, fails | ⟨_, ⟨n, disliked, rfl⟩, fails⟩⟩)
    · exact .inl fails
    · exact .inr ⟨⟨m, liked⟩, fails⟩
    · -- the division of two floored counts does not fail
      rw [Operator.apply, atLeastHalf_ne_zero] at fails
      cases fails
  · rintro (fails | ⟨⟨m, liked⟩, fails⟩)
    · exact .inl fails
    · exact .inr ⟨_, ⟨m, liked, rfl⟩, .inl fails⟩

/-- The ratio never divides by zero. Over any index, and for any node that names it, there is one
feature for it. It has a value for a record exactly if both counts stand at the top of the record
and are numbers, of whatever size and sign; the value is then the number that the two counts give,
each raised to a half if it is less. Otherwise it fails for the first of the two that is no count:
without a value if the field is missing or the record is no object, and else because the field
cannot be compared with a number. -/
theorem ratio_defined (index : TagIndex) (start stop : Nat) (children : List ParseNode) :
    ∃ ratio, (storyVocabulary index).feature ⟨"story_feature", ".ratio", start, stop, children⟩ =
        .ok (some ratio) ∧
      ∀ record,
        ((∃ x, ratio.evaluate record = .ok (.number x)) ↔
          (∃ m, Counted record "num_likes" m) ∧ ∃ n, Counted record "num_dislikes" n) ∧
        (∀ s, ratio.evaluate record = .ok s ↔ ∃ m n, Counted record "num_likes" m ∧
          Counted record "num_dislikes" n ∧ s = .number (ratioOf m n)) ∧
        ratio.evaluate record ≠ .error (.typeMismatch .divisionByZero) ∧
        ∀ e, ratio.evaluate record = .error e ↔ Uncounted "num_likes" record e ∨
          (∃ m, Counted record "num_likes" m) ∧ Uncounted "num_dislikes" record e := by
  refine ⟨.binary .divide (floored "num_likes") (floored "num_dislikes"), rfl, fun record => ?_⟩
  refine ⟨⟨?_, ?_⟩, fun s => ratio_ok, ?_, fun e => ratio_error⟩
  · rintro ⟨x, made⟩
    obtain ⟨m, n, liked, disliked, -⟩ := ratio_ok.mp made
    exact ⟨⟨m, liked⟩, n, disliked⟩
  · rintro ⟨⟨m, liked⟩, n, disliked⟩
    exact ⟨_, ratio_ok.mpr ⟨m, n, liked, disliked, rfl⟩⟩
  · intro zero
    rcases ratio_error.mp zero with fails | ⟨-, fails⟩ <;> cases fails

/-- Counts below a half, a zero with a sign among them, count as a half each. -/
example :
    (Feature.binary .divide (floored "num_likes") (floored "num_dislikes")).evaluate
      (.object [("num_dislikes", .number (.float (-0.0))), ("num_likes", .number (.int (-3)))]) =
    .ok (.number 1) := rfl

end Dialect.Archive
