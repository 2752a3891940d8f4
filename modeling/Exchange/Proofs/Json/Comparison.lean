import Mathlib
import Exchange.Proofs.Json.Sound
import Exchange.Proofs.Number.Equality

/-! # How JSON values are compared

`same`, `alike` and `within` go through two values together. On arrays each compares item by item;
on objects `same` compares entry by entry, `within` looks up each member of the one value in the
other, and `alike` does so between objects of the same size. What each of them says of two arrays
or two objects is put here once, for the inductions on values that follow.
-/

namespace Exchange

namespace JsonNumber

variable {a b c : JsonNumber}

theorem alike_iff : a.alike b = true ↔
    (∃ n, a = .int n ∧ b = .int n) ∨ (a.toFloat == b.toFloat) = true := by
  cases a with
  | float x => cases b <;> simp [alike, same, toFloat]
  | int m =>
      cases b with
      | float y => simp [alike, same, toFloat]
      | int n => simp [alike, same, toFloat, @eq_comm _ n m]

theorem alike_of_same (same : a.same b = true) : a.alike b = true := by
  simp [alike, same]

theorem alike_refl (finite : a.IsFinite) : a.alike a = true := by
  cases a with
  | int n => exact alike_iff.mpr (.inl ⟨n, rfl, rfl⟩)
  | float x => exact alike_iff.mpr (.inr (Number.beq_refl_of_isFinite finite))

theorem alike_symm (alike : a.alike b = true) : b.alike a = true := by
  rcases alike_iff.mp alike with ⟨n, rfl, rfl⟩ | equal
  · exact alike
  · exact alike_iff.mpr (.inr (Number.beq_symm equal))

theorem alike_trans (first : a.alike b = true) (second : b.alike c = true) :
    a.alike c = true := by
  rcases alike_iff.mp first with ⟨n, rfl, rfl⟩ | equal
  · exact second
  · rcases alike_iff.mp second with ⟨n, rfl, rfl⟩ | equal'
    · exact first
    · exact alike_iff.mpr (.inr (Number.beq_trans equal equal'))

end JsonNumber

namespace Json

variable {as bs items : List Json} {members others : List (String × Json)} {a b c j : Json}

section Items

variable {R S T : Json → Json → Prop} {cs : List Json}

theorem forall₂_imp (related : List.Forall₂ R as bs)
    (step : ∀ a ∈ as, ∀ b ∈ bs, R a b → S a b) : List.Forall₂ S as bs := by
  induction related with
  | nil => exact .nil
  | cons first rest ih =>
      refine .cons (step _ List.mem_cons_self _ List.mem_cons_self first) (ih fun a ha b hb => ?_)
      exact step a (List.mem_cons_of_mem _ ha) b (List.mem_cons_of_mem _ hb)

theorem forall₂_congr (step : ∀ a ∈ as, ∀ b ∈ bs, R a b ↔ S a b) :
    List.Forall₂ R as bs ↔ List.Forall₂ S as bs :=
  ⟨fun related => forall₂_imp related fun a listed b listed' => (step a listed b listed').mp,
    fun related => forall₂_imp related fun a listed b listed' => (step a listed b listed').mpr⟩

theorem forall₂_both_iff : List.Forall₂ R as bs ∧ List.Forall₂ S bs as ↔
    List.Forall₂ (fun a b => R a b ∧ S b a) as bs := by
  constructor
  · rintro ⟨forward, backward⟩
    exact List.Forall₂.mp (fun _ _ => And.intro) forward backward.flip
  · intro both
    exact ⟨both.imp fun _ _ => And.left, (both.imp fun _ _ => And.right).flip⟩

theorem forall₂_trans (related : List.Forall₂ R as bs) (related' : List.Forall₂ S bs cs)
    (step : ∀ a ∈ as, ∀ b c, R a b → S b c → T a c) : List.Forall₂ T as cs := by
  induction related generalizing cs with
  | nil =>
      cases related'
      exact .nil
  | cons first rest ih =>
      cases related' with
      | cons first' rest' =>
          refine .cons (step _ List.mem_cons_self _ _ first first') (ih rest' fun a ha => ?_)
          exact step a (List.mem_cons_of_mem _ ha)

end Items

section Lists

variable {compare : Json → Json → Bool} {compareItems : List Json → List Json → Bool}
  {compareMembers : List (String × Json) → List (String × Json) → Bool}

/-- What a comparison of two lists of items says, by its equations. -/
theorem forall₂_of_equations (nil : compareItems [] [] = true)
    (cons : ∀ a as b bs, compareItems (a :: as) (b :: bs) = (compare a b && compareItems as bs))
    (short : ∀ b bs, compareItems [] (b :: bs) = false)
    (long : ∀ a as, compareItems (a :: as) [] = false) :
    compareItems as bs = true ↔ List.Forall₂ (fun a b => compare a b = true) as bs := by
  induction as generalizing bs with
  | nil =>
      cases bs with
      | nil => simp [nil]
      | cons b bs => simp [short]
  | cons a as ih =>
      cases bs with
      | nil => simp [long]
      | cons b bs => simp [cons, ih]

theorem found_of_equations (nil : ∀ others, compareMembers [] others = true)
    (cons : ∀ name a members others, compareMembers ((name, a) :: members) others =
      ((match Table.find? name others with
        | some b => compare a b
        | none => false) && compareMembers members others)) :
    compareMembers members others = true ↔
      Table.Found (fun a b => compare a b = true) members others := by
  induction members with
  | nil => simp [nil, Table.Found]
  | cons entry members ih =>
      rw [cons, Bool.and_eq_true, ih, Table.found_cons_iff]
      refine and_congr_left fun _ => ?_
      cases Table.find? entry.1 others <;> simp

end Lists

theorem sameItems_iff :
    sameItems as bs = true ↔ List.Forall₂ (fun a b => a.same b = true) as bs :=
  forall₂_of_equations rfl (fun _ _ _ _ => rfl) (fun _ _ => rfl) (fun _ _ => rfl)

theorem alikeItems_iff :
    alikeItems as bs = true ↔ List.Forall₂ (fun a b => a.alike b = true) as bs :=
  forall₂_of_equations rfl (fun _ _ _ _ => rfl) (fun _ _ => rfl) (fun _ _ => rfl)

theorem withinItems_iff :
    withinItems as bs = true ↔ List.Forall₂ (fun a b => a.within b = true) as bs :=
  forall₂_of_equations rfl (fun _ _ _ _ => rfl) (fun _ _ => rfl) (fun _ _ => rfl)

theorem sameMembers_iff : sameMembers members others = true ↔
    Table.Pointwise (fun a b => a.same b = true) members others := by
  induction members generalizing others with
  | nil => cases others <;> simp [sameMembers, Table.Pointwise]
  | cons entry members ih =>
      cases others with
      | nil => simp [sameMembers, Table.Pointwise]
      | cons other others => simp [sameMembers, ih, Table.Pointwise]

theorem alikeMembers_iff : alikeMembers members others = true ↔
    Table.Found (fun a b => a.alike b = true) members others :=
  found_of_equations (fun _ => rfl) (fun _ _ _ _ => rfl)

theorem withinMembers_iff : withinMembers members others = true ↔
    Table.Found (fun a b => a.within b = true) members others :=
  found_of_equations (fun _ => rfl) (fun _ _ _ _ => rfl)

theorem same_array_iff : (array items).same j = true ↔
    ∃ others, j = .array others ∧ List.Forall₂ (fun a b => a.same b = true) items others := by
  cases j <;> simp [same, sameItems_iff]

theorem same_object_iff : (object members).same j = true ↔
    ∃ others, j = .object others ∧
      Table.Pointwise (fun a b => a.same b = true) members others := by
  cases j <;> simp [same, sameMembers_iff]

theorem alike_array_iff : (array items).alike j = true ↔
    ∃ others, j = .array others ∧ List.Forall₂ (fun a b => a.alike b = true) items others := by
  cases j <;> simp [alike, alikeItems_iff]

theorem alike_object_iff : (object members).alike j = true ↔
    ∃ others, j = .object others ∧ members.length = others.length ∧
      Table.Found (fun a b => a.alike b = true) members others := by
  cases j <;> simp [alike, alikeMembers_iff]

theorem within_array_iff : (array items).within j = true ↔
    ∃ others, j = .array others ∧ List.Forall₂ (fun a b => a.within b = true) items others := by
  cases j <;> simp [within, withinItems_iff]

theorem within_object_iff : (object members).within j = true ↔
    ∃ others, j = .object others ∧
      Table.Found (fun a b => a.within b = true) members others := by
  cases j <;> simp [within, withinMembers_iff]

end Json

end Exchange
