import Mathlib
import Exchange.Number.Binary64

/-! # Equality of doubles

Two doubles are equal when they stand for the same number, where the two zeros are one number, or
are the same infinity. This is an equivalence on the doubles that are a number; what is no number
equals nothing.
-/

namespace Exchange.Number

open Float.Model (UnpackedFloat)

/-- Two doubles taken apart stand for the same. -/
inductive SameDouble : UnpackedFloat → UnpackedFloat → Prop where
  | infinity (sign : UnpackedFloat.Sign) : SameDouble (.infinity sign) (.infinity sign)
  | zero (sign sign' : UnpackedFloat.Sign) : SameDouble (.zero sign) (.zero sign')
  | finite (sign : UnpackedFloat.Sign) (mantissa : Nat) (exponent : Int) (pos : 0 < mantissa) :
      SameDouble (.finite sign mantissa exponent pos) (.finite sign mantissa exponent pos)

namespace SameDouble

variable {a b c : UnpackedFloat}

theorem symm (same : SameDouble a b) : SameDouble b a := by
  cases same with
  | infinity sign => exact .infinity sign
  | zero sign sign' => exact .zero sign' sign
  | finite sign mantissa exponent pos => exact .finite sign mantissa exponent pos

theorem trans (first : SameDouble a b) (second : SameDouble b c) : SameDouble a c := by
  cases first with
  | infinity sign => exact second
  | zero sign =>
      cases second with
      | zero _ sign'' => exact .zero sign sign''
  | finite sign mantissa exponent pos => exact second

theorem refl_of_isFinite (finite : a.isFinite = true) : SameDouble a a := by
  cases a with
  | infinity => cases finite
  | notANumber => cases finite
  | zero sign => exact .zero sign sign
  | finite sign mantissa exponent pos => exact .finite sign mantissa exponent pos

theorem finite_iff {sign sign' : UnpackedFloat.Sign} {mantissa mantissa' : Nat}
    {exponent exponent' : Int} {pos : 0 < mantissa} {pos' : 0 < mantissa'} :
    SameDouble (.finite sign mantissa exponent pos) (.finite sign' mantissa' exponent' pos') ↔
      sign = sign' ∧ mantissa = mantissa' ∧ exponent = exponent' := by
  constructor
  · intro same
    cases same with
    | finite => exact ⟨rfl, rfl, rfl⟩
  · rintro ⟨rfl, rfl, rfl⟩
    exact .finite sign mantissa exponent pos

theorem compare_eq (same : SameDouble a b) : a.compare b = some .eq := by
  cases same with
  | infinity sign => cases sign <;> rfl
  | zero => rfl
  | finite sign => cases sign <;> simp [UnpackedFloat.compare]

theorem of_compare (equal : a.compare b = some .eq) : SameDouble a b := by
  cases a with
  | notANumber => cases b <;> cases equal
  | infinity sign =>
      cases sign <;> cases b with
      | infinity sign' => cases sign' <;> first | exact .infinity _ | cases equal
      | _ => cases equal
  | zero sign =>
      cases b with
      | zero sign' => exact .zero sign sign'
      | notANumber => cases equal
      | infinity sign' => cases sign' <;> cases equal
      | finite sign' => cases sign' <;> cases equal
  | finite sign mantissa exponent pos =>
      cases b with
      | notANumber => cases sign <;> cases equal
      | infinity sign' => cases sign <;> cases sign' <;> cases equal
      | zero => cases sign <;> cases equal
      | finite sign' mantissa' exponent' pos' =>
          rw [finite_iff]
          cases sign <;> cases sign' <;>
            simp [UnpackedFloat.compare, Ordering.then_eq_eq] at equal ⊢
          all_goals exact equal.symm

end SameDouble

theorem beq_iff_sameDouble {x y : Float} :
    (x == y) = true ↔ SameDouble x.toModel.unpack y.toModel.unpack := by
  have said : (x == y) = (x.toModel.unpack.compare y.toModel.unpack == some .eq) := rfl
  rw [said, beq_iff_eq]
  exact ⟨SameDouble.of_compare, SameDouble.compare_eq⟩

theorem beq_symm {x y : Float} (same : (x == y) = true) : (y == x) = true :=
  beq_iff_sameDouble.mpr (beq_iff_sameDouble.mp same).symm

theorem beq_trans {x y z : Float} (first : (x == y) = true) (second : (y == z) = true) :
    (x == z) = true :=
  beq_iff_sameDouble.mpr ((beq_iff_sameDouble.mp first).trans (beq_iff_sameDouble.mp second))

theorem beq_refl_of_isFinite {x : Float} (finite : x.isFinite = true) : (x == x) = true :=
  beq_iff_sameDouble.mpr (SameDouble.refl_of_isFinite finite)

end Exchange.Number
