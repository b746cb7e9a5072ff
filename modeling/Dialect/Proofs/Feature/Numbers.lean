import Mathlib
import Dialect.Proofs.Feature.Order

/-!
Numbers that are numbers.

A NaN only comes from a NaN, from an infinity times zero, or from a quotient of zeros or of
infinities. An integer is made a float by scaling its digits by a power of ten that is a float, or
by rounding them, so it is never a NaN, however large. Main statement: `toFloat_isNaN`.
-/

namespace Dialect

open Float.Model (UnpackedFloat Format)
open Float.Model.UnpackedFloat

/-! ### Unpacked floats -/

variable {f g : UnpackedFloat} {x y : Float}

/-- Neither zero nor infinite nor a NaN. -/
def Proper : UnpackedFloat → Bool
  | .finite _ _ _ _ => true
  | .infinity _ | .notANumber | .zero _ => false

theorem isNaN_unpack {b : BitVec Format.binary64.numBits} :
    (UnpackedFloat.unpack Format.binary64 b).isNaN = true ↔
      unpackExponent b = -BitVec.ofNat Format.binary64.exponentBits 1 ∧ unpackMantissa b ≠ 0#_ := by
  simp only [UnpackedFloat.unpack]
  split_ifs with outermost whole least zero <;> simp_all [UnpackedFloat.isNaN]

/-- Packing makes no NaN and loses none. -/
theorem isNaN_pack : (Float.Model.pack f).isNaN = f.isNaN := by
  rw [Bool.eq_iff_iff]
  change (UnpackedFloat.unpack _ (UnpackedFloat.pack Format.binary64 f)).isNaN = true ↔ _
  rw [isNaN_unpack]
  fun_cases UnpackedFloat.pack Format.binary64 f with
  | case1 => simp [packedNaN, UnpackedFloat.isNaN]
  | case2 => simp [packedInfinity, UnpackedFloat.isNaN]
  | case3 => simp [packedZero, UnpackedFloat.isNaN]
  | case4 => simp [packedInfinity, UnpackedFloat.isNaN]
  | case5 s m e pos bits biased small =>
    have bound : biased + 1 < 2 ^ 11 := Nat.lt_of_not_le small
    have below : BitVec.ofNat 11 biased ≠ 2047#11 := by
      intro same
      have value := congrArg BitVec.toNat same
      rw [BitVec.toNat_ofNat, Nat.mod_eq_of_lt (by omega)] at value
      change biased = 2047 at value
      omega
    simp [UnpackedFloat.isNaN, below]
  | case6 => simp [UnpackedFloat.isNaN]

theorem isNaN_roundWithAccuracy {spec : Format} {sign : Sign} {mantissa : Nat} {exponent : Int}
    {accuracy : Accuracy} :
    (roundWithAccuracy spec sign mantissa exponent accuracy).isNaN = false := by
  simp only [roundWithAccuracy]
  split <;> rfl

theorem isNaN_mul_unpacked {spec : Format} (fine : f.isNaN = false) (proper : Proper g = true) :
    (UnpackedFloat.mul spec f g).isNaN = false := by
  cases g with
  | infinity | notANumber | zero => cases proper
  | finite =>
    cases f with
    | notANumber => cases fine
    | infinity | zero => rfl
    | finite => exact isNaN_roundWithAccuracy

theorem isNaN_div_unpacked {spec : Format} (fine : f.isNaN = false) (proper : Proper g = true) :
    (UnpackedFloat.div spec f g).isNaN = false := by
  cases g with
  | infinity | notANumber | zero => cases proper
  | finite =>
    cases f with
    | notANumber => cases fine
    | infinity | zero => rfl
    | finite => exact isNaN_roundWithAccuracy

theorem isNaN_ofScientific_unpacked {spec : Format} {digits : Nat} {exponent : Int} :
    (UnpackedFloat.ofScientific spec digits exponent).isNaN = false := by
  rw [UnpackedFloat.ofScientific]
  split_ifs
  · rfl
  · rfl
  · rfl
  · exact isNaN_mul_unpacked rfl rfl
  · exact isNaN_div_unpacked rfl rfl

theorem isNaN_ofInt {spec : Format} {n : Int} : (ofInt spec n).isNaN = false := by
  rw [ofInt, UnpackedFloat.normalize]
  split
  · exact isNaN_roundWithAccuracy
  · rfl
  · exact isNaN_roundWithAccuracy

/-! ### Floats -/

theorem isNaN_neg : (-x).isNaN = x.isNaN := by
  change (Float.Model.pack x.toModel.unpack.neg).isNaN = x.toModel.unpack.isNaN
  rw [isNaN_pack]
  cases x.toModel.unpack <;> rfl

theorem isNaN_mul (fine : x.isNaN = false) (proper : Proper y.toModel.unpack = true) :
    (x * y).isNaN = false := by
  change (Float.Model.pack _).isNaN = false
  rw [isNaN_pack]
  exact isNaN_mul_unpacked fine proper

theorem isNaN_div (fine : x.isNaN = false) (proper : Proper y.toModel.unpack = true) :
    (x / y).isNaN = false := by
  change (Float.Model.pack _).isNaN = false
  rw [isNaN_pack]
  exact isNaN_div_unpacked fine proper

theorem isNaN_ofScientific {digits : Nat} {negative : Bool} {exponent : Nat} :
    (Float.ofScientific digits negative exponent).isNaN = false := by
  have whole : (digits.toUInt64.toFloat).isNaN = false := isNaN_pack.trans isNaN_ofInt
  have powers : ∀ power ∈ Float.exactlyRepresentablePowersOfTen,
      Proper power.toModel.unpack = true := by
    decide +kernel
  rw [Float.ofScientific]
  split
  · -- both the digits and the power of ten are floats
    dsimp only
    split
    · exact isNaN_div whole (powers _ (Array.getElem_mem _))
    · exact isNaN_mul whole (powers _ (Array.getElem_mem _))
  · exact isNaN_pack.trans isNaN_ofScientific_unpacked

/-! ### Numbers of records -/

/-- The number is no number. No record in JSON has such a number. -/
def Number.isNaN : Number → Bool
  | .int _ => false
  | .float x => x.isNaN

theorem toFloat_isNaN (n : Number) : n.toFloat.isNaN = n.isNaN := by
  cases n with
  | float x => rfl
  | int n =>
    have size : (Float.ofNat n.natAbs).isNaN = false := isNaN_ofScientific
    rw [Number.toFloat, Number.isNaN]
    split
    · rw [isNaN_neg, size]
    · exact size

end Dialect
