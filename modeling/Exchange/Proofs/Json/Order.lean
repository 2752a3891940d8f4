import Mathlib
import Exchange.Proofs.Json.Comparison

/-! # The order of containment

`within` is a preorder on well-formed values: a value is within itself, and what is within a value
is within whatever that value is in. Two values that are within each other are alike, and equal
values are.
-/

namespace Exchange.Json

variable {a b c : Json}

theorem within_refl (sound : a.WellFormed) : a.within a = true := by
  induction sound with
  | null => rfl
  | bool b => exact beq_self_eq_true b
  | number finite => exact JsonNumber.alike_refl finite
  | string s => exact beq_self_eq_true s
  | array _ ih => exact within_array_iff.mpr ⟨_, rfl, List.forall₂_same.mpr ih⟩
  | object sorted _ ih =>
      refine within_object_iff.mpr ⟨_, rfl, fun entry listed => ?_⟩
      exact ⟨entry.2, Table.find?_of_mem sorted.nodup listed, ih entry listed⟩

theorem within_trans (sound : a.WellFormed) (first : a.within b = true)
    (second : b.within c = true) : a.within c = true := by
  induction sound generalizing b c with
  | null =>
      cases b <;> simp [within] at first
      exact second
  | bool x =>
      cases b <;> simp [within] at first
      exact first ▸ second
  | number finite =>
      cases b <;> simp [within] at first
      cases c <;> simp [within] at second
      exact JsonNumber.alike_trans first second
  | string s =>
      cases b <;> simp [within] at first
      exact first ▸ second
  | array _ ih =>
      obtain ⟨items, rfl, firsts⟩ := within_array_iff.mp first
      obtain ⟨others, rfl, seconds⟩ := within_array_iff.mp second
      exact within_array_iff.mpr
        ⟨others, rfl, forall₂_trans firsts seconds fun a listed _ _ => ih a listed⟩
  | object _ _ ih =>
      obtain ⟨members, rfl, firsts⟩ := within_object_iff.mp first
      obtain ⟨others, rfl, seconds⟩ := within_object_iff.mp second
      exact within_object_iff.mpr
        ⟨others, rfl, firsts.trans seconds fun entry listed _ _ => ih entry listed⟩

theorem alike_iff_within (sound : a.WellFormed) (sound' : b.WellFormed) :
    a.alike b = true ↔ a.within b = true ∧ b.within a = true := by
  induction sound generalizing b with
  | null => cases b <;> simp [alike, within]
  | bool x =>
      cases b with
      | bool y => simpa [alike, within] using fun same => Eq.symm same
      | _ => simp [alike, within]
  | string s =>
      cases b with
      | string t => simpa [alike, within] using fun same => Eq.symm same
      | _ => simp [alike, within]
  | number finite =>
      cases b with
      | number n =>
          simp only [alike, within]
          exact ⟨fun alike => ⟨alike, JsonNumber.alike_symm alike⟩, And.left⟩
      | _ => simp [alike, within]
  | array _ ih =>
      cases sound' with
      | array sound' =>
          simp only [alike, alikeItems_iff, within, withinItems_iff]
          rw [forall₂_both_iff]
          exact forall₂_congr fun a listed b listed' => ih a listed (sound' b listed')
      | _ => simp [alike, within]
  | object sorted _ ih =>
      cases sound' with
      | object sorted' sound' =>
          simp only [alike, alikeMembers_iff, within, withinMembers_iff, Bool.and_eq_true,
            beq_iff_eq]
          rw [Table.found_both_iff sorted sorted']
          exact and_congr_right fun _ => Table.found_congr fun entry listed b listed' =>
            ih entry listed (sound' _ listed')
      | _ => simp [alike, within]

theorem alike_of_same (sound : a.WellFormed) (sound' : b.WellFormed) (same : a.same b = true) :
    a.alike b = true := by
  induction sound generalizing b with
  | null => cases b <;> simp [Json.same] at same ⊢; rfl
  | bool x => cases b <;> simp [Json.same, alike] at same ⊢; exact same
  | string s => cases b <;> simp [Json.same, alike] at same ⊢; exact same
  | number finite =>
      cases b <;> simp [Json.same] at same
      exact JsonNumber.alike_of_same same
  | array _ ih =>
      obtain ⟨items, rfl, itemwise⟩ := same_array_iff.mp same
      cases sound' with
      | array sound' =>
          exact alike_array_iff.mpr ⟨items, rfl, forall₂_imp itemwise fun a listed b listed' =>
            ih a listed (sound' b listed')⟩
  | object sorted _ ih =>
      obtain ⟨members, rfl, pointwise⟩ := same_object_iff.mp same
      cases sound' with
      | object sorted' sound' =>
          obtain ⟨length, found⟩ := (Table.pointwise_iff sorted sorted').mp pointwise
          exact alike_object_iff.mpr ⟨members, rfl, length, found.imp fun entry listed b listed' =>
            ih entry listed (sound' _ listed')⟩

end Exchange.Json
