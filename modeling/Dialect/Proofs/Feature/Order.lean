import Mathlib.Order.Basic
import Dialect.Feature.Basic

/-!
The order of scalars.

Two scalars are ordered if both are texts, both booleans, or both numbers and neither of these is a
NaN (`exists_ordered_iff`). On floats the order is that of their places: infinities outermost,
then sign, exponent and digits, with one place for both zeros (`floatOrder?_eq`). So the order is a
total preorder within each kind: it turns round with its operands (`Ordered.swap`), it is transitive
(`Ordered.beyond_trans`), and equality of scalars is what it calls equal (`Ordered.same_iff`).
-/

namespace Dialect

namespace Scalar

open Float.Model (UnpackedFloat)

/-! ### Floats -/

/-- Where a float stands among the others, as a list that is compared from the left. -/
def unpackedPlace : UnpackedFloat → List Int
  | .infinity .positive => [2]
  | .finite .positive digits exponent _ => [1, exponent, digits]
  | .zero _ | .notANumber => [0]
  | .finite .negative digits exponent _ => [-1, -exponent, -digits]
  | .infinity .negative => [-2]

def place (x : Float) : List Int := unpackedPlace x.toModel.unpack

theorem compare_neg_neg (m n : Int) : compare (-m) (-n) = (compare m n).swap := by
  rw [← Std.OrientedCmp.eq_swap]
  simp only [compare, compareOfLessAndEq, Int.neg_lt_neg_iff, Int.neg_inj, eq_comm]

theorem compare_natCast (m n : Nat) : compare (m : Int) (n : Int) = compare m n := by
  simp only [compare, compareOfLessAndEq, Int.ofNat_lt, Int.ofNat_inj]

theorem compare_finite (side m n d e : Int) :
    compare [side, m, d] [side, n, e] = (compare m n).then (compare d e) := by
  simp

/-- The order of unpacked floats is that of their places, except where one is no number. -/
theorem compare_unpacked (f g : UnpackedFloat) :
    f.compare g =
      if f.isNaN || g.isNaN then none else some (compare (unpackedPlace f) (unpackedPlace g)) := by
  rcases f with ⟨_ | _⟩ | _ | _ | ⟨_ | _, digits, exponent, _⟩ <;>
    rcases g with ⟨_ | _⟩ | _ | _ | ⟨_ | _, digits', exponent', _⟩ <;> try rfl
  -- two finite floats of one sign are left: the greater magnitude comes first if they are negative
  · change some ((compare exponent exponent').then (compare digits digits')).swap =
      some (compare [-1, -exponent, -(digits : Int)] [-1, -exponent', -(digits' : Int)])
    rw [compare_finite, compare_neg_neg, compare_neg_neg, compare_natCast, Ordering.swap_then]
  · change some ((compare exponent exponent').then (compare digits digits')) =
      some (compare [1, exponent, (digits : Int)] [1, exponent', (digits' : Int)])
    rw [compare_finite, compare_natCast]

theorem float_lt_iff {x y : Float} :
    x < y ↔ x.toModel.unpack.compare y.toModel.unpack = some .lt := by
  change decide (x.toModel < y.toModel) = true ↔ _
  rw [decide_eq_true_iff]
  exact beq_iff_eq

theorem float_beq_iff {x y : Float} :
    (x == y) = true ↔ x.toModel.unpack.compare y.toModel.unpack = some .eq := by
  change (x.toModel.unpack.compare y.toModel.unpack == some .eq) = true ↔ _
  exact beq_iff_eq

theorem compare_floats (x y : Float) :
    x.toModel.unpack.compare y.toModel.unpack =
      if x.isNaN || y.isNaN then none else some (compare (place x) (place y)) :=
  compare_unpacked _ _

/-- Floats are ordered by their places, and one that is no number is not ordered at all. -/
theorem floatOrder?_eq (x y : Float) :
    floatOrder? x y = if x.isNaN || y.isNaN then none else some (compare (place x) (place y)) := by
  have turned : compare (place y) (place x) = (compare (place x) (place y)).swap :=
    Std.OrientedCmp.eq_swap
  simp only [floatOrder?, float_lt_iff, float_beq_iff, compare_floats, turned,
    Bool.or_comm y.isNaN x.isNaN]
  cases x.isNaN || y.isNaN with
  | true => rfl
  | false => cases compare (place x) (place y) <;> rfl

/-! ### Scalars of one kind -/

/-- The kind within which a value is ordered. Nothing orders null, structured values, or a float
that is no number. -/
def orderedKind? : Scalar → Option ScalarKind
  | .number x => if x.isNaN then none else some .number
  | .text _ => some .text
  | .bool _ => some .bool
  | .null | .structured _ => none

/-- Two scalars of one kind, and how they stand to each other. -/
inductive Ordered : Scalar → Scalar → Ordering → Prop where
  | number {x y : Float} (fine : x.isNaN = false) (fine' : y.isNaN = false) :
      Ordered (.number x) (.number y) (compare (place x) (place y))
  | text {s t : String} : Ordered (.text s) (.text t) (compare s t)
  | bool {a b : Bool} : Ordered (.bool a) (.bool b) (compare a b)

variable {a b c : Scalar} {o o' : Ordering}

theorem order_number_eq_ok {x y : Float} :
    (number x).order (.number y) = .ok o ↔
      x.isNaN = false ∧ y.isNaN = false ∧ compare (place x) (place y) = o := by
  rw [order, floatOrder?_eq]
  cases x.isNaN <;> cases y.isNaN <;> simp

theorem order_eq_ok : a.order b = .ok o ↔ Ordered a b o := by
  constructor
  · intro ordered
    cases a with
    | number x =>
      cases b with
      | number y =>
        obtain ⟨fine, fine', rfl⟩ := order_number_eq_ok.mp ordered
        exact .number fine fine'
      | text | bool | null | structured => cases ordered
    | text s =>
      cases b with
      | text t =>
        cases ordered
        exact .text
      | number | bool | null | structured => cases ordered
    | bool x =>
      cases b with
      | bool y =>
        cases ordered
        exact .bool
      | number | text | null | structured => cases ordered
    | null | structured => cases ordered
  · intro ordered
    cases ordered with
    | number fine fine' => exact order_number_eq_ok.mpr ⟨fine, fine', rfl⟩
    | text | bool => rfl

theorem orderedKind?_number {x : Float} {kind : ScalarKind} :
    (number x).orderedKind? = some kind ↔ x.isNaN = false ∧ kind = .number := by
  rw [orderedKind?]
  cases x.isNaN with
  | true => simp
  | false => simp [eq_comm]

/-- Two scalars are ordered exactly if they are of one kind that has an order. -/
theorem exists_ordered_iff :
    (∃ o, Ordered a b o) ↔ ∃ kind, a.orderedKind? = some kind ∧ b.orderedKind? = some kind := by
  constructor
  · rintro ⟨o, ordered⟩
    cases ordered with
    | number fine fine' =>
      exact ⟨.number, orderedKind?_number.mpr ⟨fine, rfl⟩, orderedKind?_number.mpr ⟨fine', rfl⟩⟩
    | text => exact ⟨.text, rfl, rfl⟩
    | bool => exact ⟨.bool, rfl, rfl⟩
  · rintro ⟨kind, left, right⟩
    cases a with
    | number x =>
      obtain ⟨fine, rfl⟩ := orderedKind?_number.mp left
      cases b with
      | number y => exact ⟨_, .number fine (orderedKind?_number.mp right).1⟩
      | text | bool | null | structured => cases right
    | text s =>
      cases left
      cases b with
      | text t => exact ⟨_, .text⟩
      | number y => cases (orderedKind?_number.mp right).2
      | bool | null | structured => cases right
    | bool x =>
      cases left
      cases b with
      | bool y => exact ⟨_, .bool⟩
      | number y => cases (orderedKind?_number.mp right).2
      | text | null | structured => cases right
    | null | structured => cases left

theorem Ordered.swap (ordered : Ordered a b o) : Ordered b a o.swap := by
  cases ordered with
  | number fine fine' =>
    rw [← Std.OrientedCmp.eq_swap]
    exact .number fine' fine
  | text =>
    rw [← Std.OrientedCmp.eq_swap]
    exact .text
  | bool =>
    rw [← Std.OrientedCmp.eq_swap]
    exact .bool

theorem Ordered.unique (ordered : Ordered a b o) (ordered' : Ordered a b o') : o = o' := by
  cases ordered <;> cases ordered' <;> rfl

theorem compare_wanted {α : Type} [Ord α] [Std.TransOrd α] {side : Extreme} {x y z : α}
    (beyond : compare z y = side.wanted) (short : compare x y ≠ side.wanted) :
    compare z x = side.wanted := by
  have turned : compare y x = (compare x y).swap := Std.OrientedCmp.eq_swap
  cases side with
  | max =>
    have above : (compare y x).isGE = true := by
      rw [turned, Ordering.isGE_swap]
      exact Ordering.isLE_iff_ne_gt.mpr short
    exact Std.TransCmp.gt_of_gt_of_isGE beyond above
  | min =>
    have below : (compare y x).isLE = true := by
      rw [turned, Ordering.isLE_swap]
      exact Ordering.isGE_iff_ne_lt.mpr short
    exact Std.TransCmp.lt_of_lt_of_isLE beyond below

/-- What goes beyond a value goes beyond whatever does not itself go beyond that value. -/
theorem Ordered.beyond_trans {side : Extreme} (beyond : Ordered c b side.wanted)
    (short : Ordered a b o) (within : o ≠ side.wanted) : Ordered c a side.wanted := by
  obtain ⟨o', wanted, beyond⟩ : ∃ o', o' = side.wanted ∧ Ordered c b o' := ⟨_, rfl, beyond⟩
  cases beyond with
  | number fine fine' =>
    cases short with
    | number fine'' _ =>
      rw [← compare_wanted wanted within]
      exact .number fine fine''
  | text =>
    cases short
    rw [← compare_wanted wanted within]
    exact .text
  | bool =>
    cases short
    rw [← compare_wanted wanted within]
    exact .bool

/-- Equality of scalars is what their order calls equal. -/
theorem Ordered.same_iff (ordered : Ordered a b o) : a.same b = true ↔ o = .eq := by
  cases ordered with
  | number fine fine' =>
    rw [same, float_beq_iff, compare_floats, fine, fine']
    simp
  | text => simp [same]
  | bool => simp [same]

end Scalar

end Dialect
