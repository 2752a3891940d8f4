import Mathlib
import Exchange.Number.Numeral

/-! # The double of a numeral is a number

No numeral, however long, comes to what is no number: rounding gives zero, a finite double or
infinity, and the powers of ten that a short numeral is multiplied or divided by are neither zero nor
infinite.
-/

namespace Exchange.Number

open Float.Model Float.Model.UnpackedFloat

/-- A double taken apart is a number. -/
def IsNumber (a : UnpackedFloat) : Prop := a.isNaN = false

/-- Is it a number other than zero and infinity? -/
def isScale : UnpackedFloat → Bool
  | .finite .. => true
  | _ => false

namespace IsNumber

variable {a b : UnpackedFloat}

theorem neg (number : IsNumber a) : IsNumber a.neg := by
  cases a with
  | notANumber => cases number
  | infinity | zero | finite => rfl

theorem roundWithAccuracy {spec : Format} {sign : Sign} {mantissa : Nat} {exponent : Int}
    {accuracy : Accuracy} :
    IsNumber (UnpackedFloat.roundWithAccuracy spec sign mantissa exponent accuracy) := by
  simp only [UnpackedFloat.roundWithAccuracy]
  split <;> rfl

theorem mul {spec : Format} (number : IsNumber a) (scale : isScale b = true) :
    IsNumber (UnpackedFloat.mul spec a b) := by
  cases b with
  | infinity | notANumber | zero => cases scale
  | finite =>
      cases a with
      | notANumber => cases number
      | infinity | zero => rfl
      | finite => exact roundWithAccuracy

theorem div {spec : Format} (number : IsNumber a) (scale : isScale b = true) :
    IsNumber (UnpackedFloat.div spec a b) := by
  cases b with
  | infinity | notANumber | zero => cases scale
  | finite =>
      cases a with
      | notANumber => cases number
      | infinity | zero => rfl
      | finite => exact roundWithAccuracy

theorem ofNat {spec : Format} (n : Nat) : IsNumber (UnpackedFloat.ofNat spec n) := by
  simp only [UnpackedFloat.ofNat, UnpackedFloat.ofInt, UnpackedFloat.normalize]
  split
  · exact roundWithAccuracy
  · rfl
  · exact roundWithAccuracy

theorem ofScientific {spec : Format} (m : Nat) (e : Int) :
    IsNumber (UnpackedFloat.ofScientific spec m e) := by
  unfold UnpackedFloat.ofScientific
  split_ifs
  · rfl
  · rfl
  · rfl
  · exact mul rfl rfl
  · exact div rfl rfl

theorem unpack_packComponents {sign : Sign} {exponent : BitVec 11} {mantissa : BitVec 52}
    (field : exponent = -1#11 → mantissa = 0#52) :
    IsNumber (unpack Format.binary64 (packComponents Format.binary64 sign exponent mantissa)) := by
  rw [UnpackedFloat.unpack]
  simp only [unpackExponent_packComponents, unpackMantissa_packComponents]
  by_cases greatest : exponent = -1#11
  · rw [if_pos greatest, if_pos (field greatest)]
    rfl
  · rw [if_neg greatest]
    split_ifs <;> rfl

/-- Packing may overflow to infinity but never loses that there was a number. -/
theorem unpack_pack (number : IsNumber a) : IsNumber (Float.Model.pack a).unpack := by
  change IsNumber (unpack Format.binary64 (UnpackedFloat.pack Format.binary64 a))
  unfold UnpackedFloat.pack
  split
  · cases number
  · exact unpack_packComponents fun _ => rfl
  · exact unpack_packComponents fun _ => rfl
  · rename_i sign mantissa exponent pos
    dsimp only
    split_ifs with overflow normal
    · exact unpack_packComponents fun _ => rfl
    · refine unpack_packComponents fun greatest => absurd (congrArg BitVec.toNat greatest) ?_
      change ¬2 ^ 11 ≤ _ + 1 at overflow
      change BitVec.toNat (BitVec.ofNat 11 _) ≠ 2047
      rw [BitVec.toNat_ofNat, Nat.mod_eq_of_lt (by omega)]
      omega
    · exact unpack_packComponents fun same => absurd same (by decide)

end IsNumber

theorem isScale_powersOfTen (e : Fin Float.exactlyRepresentablePowersOfTen.size) :
    isScale Float.exactlyRepresentablePowersOfTen[e].toModel.unpack = true := by
  revert e
  decide +kernel

theorem isNaN_ofScientific (m : Nat) (negative : Bool) (e : Nat) :
    (Float.ofScientific m negative e).isNaN = false := by
  have whole : IsNumber m.toUInt64.toFloat.toModel.unpack := (IsNumber.ofNat _).unpack_pack
  unfold Float.ofScientific
  split
  · rename_i short
    have power := isScale_powersOfTen ⟨e, Nat.lt_succ_of_le short.2⟩
    dsimp only
    split
    · exact (whole.div (power)).unpack_pack
    · exact (whole.mul (power)).unpack_pack
  · exact (IsNumber.ofScientific m _).unpack_pack

theorem isNaN_neg {x : Float} (number : x.isNaN = false) : (-x).isNaN = false :=
  (IsNumber.neg number).unpack_pack

theorem isNaN_infinity : ((1.0 : Float) / 0.0).isNaN = false := by
  decide +kernel

theorem Numeral.isNaN_value (n : Numeral) : n.value.isNaN = false := by
  have magnitude (digits : List Char) (exponent : Int) :
      (if digits = [] ∨ digits.length + exponent < -400 then (0.0 : Float)
        else if digits.length + exponent > 400 then 1.0 / 0.0
        else Float.ofScientific (digitsValue digits) (exponent < 0) exponent.natAbs).isNaN = false := by
    split_ifs
    · exact isNaN_ofScientific ..
    · exact isNaN_infinity
    · exact isNaN_ofScientific ..
  unfold Numeral.value
  dsimp only
  split
  · exact isNaN_neg (magnitude _ _)
  · exact magnitude _ _

end Exchange.Number
