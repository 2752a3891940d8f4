import Mathlib
import Exchange.Proofs.Json.Comparison
import Exchange.Proofs.Number.Conversion

/-! # Comparing integers

Numbers are alike when they are equal as doubles, and the double of an integer is the nearest one
of 53 binary places. So values all of whose numbers are integers are alike when they are equal
after each integer has been rounded, and up to `2 ^ 53` rounding changes nothing. Beyond that, an
integer is taken for a neighbour that is rounded to the same.
-/

namespace Exchange

namespace JsonNumber

/-- An integer of 64 bits, with or without a sign. -/
def IsInteger : JsonNumber → Prop
  | .int n => -(2 ^ 63) ≤ n ∧ n < 2 ^ 64
  | .float _ => False

/-- An integer that a double holds, as every smaller one. -/
def IsExact : JsonNumber → Prop
  | .int n => n.natAbs ≤ 2 ^ 53
  | .float _ => False

instance : DecidablePred IsInteger
  | .int n => inferInstanceAs (Decidable (-(2 ^ 63) ≤ n ∧ n < 2 ^ 64))
  | .float _ => inferInstanceAs (Decidable False)

instance : DecidablePred IsExact
  | .int n => inferInstanceAs (Decidable (n.natAbs ≤ 2 ^ 53))
  | .float _ => inferInstanceAs (Decidable False)

/-- The number with every integer rounded to what a double holds. -/
def rounded : JsonNumber → JsonNumber
  | .int n => .int (Number.nearestInt n)
  | .float x => .float x

theorem alike_int_iff {m n : Int} (small : (int m).IsInteger) (small' : (int n).IsInteger) :
    (int m).alike (int n) = true ↔ Number.nearestInt m = Number.nearestInt n := by
  have converted : ((int m).toFloat == (int n).toFloat) = true ↔
      Number.nearestInt m = Number.nearestInt n := by
    apply Number.ofInt_beq_ofInt
    · obtain ⟨low, high⟩ := small
      omega
    · obtain ⟨low, high⟩ := small'
      omega
  rw [alike_iff, converted]
  constructor
  · rintro (⟨k, same, same'⟩ | rounded)
    · obtain rfl := JsonNumber.int.inj same
      obtain rfl := JsonNumber.int.inj same'
      rfl
    · exact rounded
  · exact .inr

theorem alike_iff_rounded {a b : JsonNumber} (integer : a.IsInteger) (integer' : b.IsInteger) :
    a.alike b = true ↔ a.rounded.same b.rounded = true := by
  cases a with
  | float x => exact integer.elim
  | int m =>
      cases b with
      | float y => exact integer'.elim
      | int n => simpa [rounded, same] using alike_int_iff integer integer'

theorem rounded_of_isExact {a : JsonNumber} (exact : a.IsExact) : a.rounded = a := by
  cases a with
  | float x => exact exact.elim
  | int n => exact congrArg int (Number.nearestInt_of_le exact)

end JsonNumber

namespace Json

variable {a b e : Json}

mutual
/-- The value with every integer rounded to what a double holds. -/
def rounded : Json → Json
  | .null => .null
  | .bool b => .bool b
  | .number n => .number n.rounded
  | .string s => .string s
  | .array items => .array (roundedItems items)
  | .object members => .object (roundedMembers members)

/-- The items rounded. -/
def roundedItems : List Json → List Json
  | [] => []
  | item :: rest => item.rounded :: roundedItems rest

/-- The members rounded. -/
def roundedMembers : List (String × Json) → List (String × Json)
  | [] => []
  | (name, value) :: rest => (name, value.rounded) :: roundedMembers rest
end

theorem roundedItems_eq_map (items : List Json) : roundedItems items = items.map rounded := by
  induction items with
  | nil => rfl
  | cons item items ih => rw [roundedItems, ih, List.map_cons]

theorem roundedMembers_eq_map (members : List (String × Json)) :
    roundedMembers members = members.map fun entry => (entry.1, entry.2.rounded) := by
  induction members with
  | nil => rfl
  | cons entry members ih => rw [roundedMembers, ih, List.map_cons]

theorem alike_iff_rounded (integral : a.Sound JsonNumber.IsInteger)
    (integral' : b.Sound JsonNumber.IsInteger) :
    a.alike b = true ↔ a.rounded.same b.rounded = true := by
  induction integral generalizing b with
  | null => cases b <;> simp [alike, rounded, same]
  | bool x => cases b <;> simp [alike, rounded, same]
  | string s => cases b <;> simp [alike, rounded, same]
  | number integer =>
      cases integral' with
      | number integer' => exact JsonNumber.alike_iff_rounded integer integer'
      | _ => simp [alike, rounded, same]
  | array _ ih =>
      cases integral' with
      | array integral' =>
          simp only [alike, alikeItems_iff, rounded, same, sameItems_iff, roundedItems_eq_map,
            List.forall₂_map_left_iff, List.forall₂_map_right_iff]
          exact forall₂_congr fun a listed b listed' => ih a listed (integral' b listed')
      | _ => simp [alike, rounded, same]
  | object sorted _ ih =>
      cases integral' with
      | object sorted' integral' =>
          simp only [alike, alikeMembers_iff, rounded, same, sameMembers_iff,
            roundedMembers_eq_map, Bool.and_eq_true, beq_iff_eq]
          rw [Table.pointwise_map_iff, Table.pointwise_iff sorted sorted']
          exact and_congr_right fun _ => Table.found_congr fun entry listed b listed' =>
            ih entry listed (integral' _ listed')
      | _ => simp [alike, rounded, same]

theorem rounded_of_isExact (exact : a.Sound JsonNumber.IsExact) : a.rounded = a := by
  induction exact with
  | null => rfl
  | bool b => rfl
  | number exact => exact congrArg number (JsonNumber.rounded_of_isExact exact)
  | string s => rfl
  | array _ ih =>
      rw [rounded, roundedItems_eq_map, List.map_congr_left ih, List.map_id']
  | object _ _ ih =>
      rw [rounded, roundedMembers_eq_map,
        List.map_congr_left fun entry listed => congrArg (Prod.mk entry.1) (ih entry listed),
        List.map_id']

/-- A step into a value. -/
inductive Step where
  | item (i : Nat)
  | member (name : String)

/-- Where a step leads. -/
def step? : Step → Json → Option Json
  | .item i, .array items => items[i]?
  | .item _, _ => none
  | .member name, j => j.member? name

/-- The value at a place, to which some steps lead. -/
def at? : List Step → Json → Option Json
  | [], j => some j
  | step :: place, j => (step? step j).bind (at? place)

theorem within_step? {step : Step} {x : Json} (inside : e.within a = true)
    (there : step? step e = some x) : ∃ y, step? step a = some y ∧ x.within y = true := by
  cases step with
  | item i =>
      cases e with
      | array items =>
          obtain ⟨others, rfl, itemwise⟩ := within_array_iff.mp inside
          obtain ⟨bound, rfl⟩ := List.getElem?_eq_some_iff.mp there
          have bound' : i < others.length := itemwise.length_eq ▸ bound
          exact ⟨_, List.getElem?_eq_getElem bound', itemwise.get bound bound'⟩
      | _ => cases there
  | member name =>
      cases e with
      | object members =>
          obtain ⟨others, rfl, found⟩ := within_object_iff.mp inside
          exact found (name, x) (Table.mem_of_find? there)
      | _ => cases there

theorem within_at? {place : List Step} {x : Json} (inside : e.within a = true)
    (there : e.at? place = some x) : ∃ y, a.at? place = some y ∧ x.within y = true := by
  induction place generalizing e a with
  | nil =>
      obtain rfl := Option.some.inj there
      exact ⟨a, rfl, inside⟩
  | cons step place ih =>
      obtain ⟨j, first, rest⟩ := Option.bind_eq_some_iff.mp there
      obtain ⟨k, first', inside'⟩ := within_step? inside first
      obtain ⟨y, rest', within⟩ := ih inside' rest
      exact ⟨y, Option.bind_eq_some_iff.mpr ⟨k, first', rest'⟩, within⟩

theorem Sound.step? {condition : JsonNumber → Prop} {step : Step} {x : Json}
    (sound : e.Sound condition) (there : step? step e = some x) : x.Sound condition := by
  cases step with
  | item i =>
      cases sound with
      | array sound => exact sound x (List.mem_of_getElem? there)
      | _ => cases there
  | member name =>
      cases sound with
      | object _ sound => exact sound _ (Table.mem_of_find? there)
      | _ => cases there

theorem Sound.at? {condition : JsonNumber → Prop} {place : List Step} {x : Json}
    (sound : e.Sound condition) (there : e.at? place = some x) : x.Sound condition := by
  induction place generalizing e with
  | nil => exact Option.some.inj there ▸ sound
  | cons step place ih =>
      obtain ⟨j, first, rest⟩ := Option.bind_eq_some_iff.mp there
      exact ih (sound.step? first) rest

/-- An integer that is asked for faces one that is rounded to the same. -/
theorem exists_integer_at? (integral : e.Sound JsonNumber.IsInteger)
    (integral' : a.Sound JsonNumber.IsInteger) (inside : e.within a = true) {place : List Step}
    {n : Int} (there : e.at? place = some (.number (.int n))) :
    ∃ m, a.at? place = some (.number (.int m)) ∧
      Number.nearestInt m = Number.nearestInt n := by
  obtain ⟨y, there', related⟩ := within_at? inside there
  cases y with
  | number k =>
      cases integral.at? there with
      | number integer =>
          cases integral'.at? there' with
          | number integer' =>
              cases k with
              | float x => exact integer'.elim
              | int m =>
                  exact ⟨m, there', ((JsonNumber.alike_int_iff integer integer').mp related).symm⟩
  | _ => cases related

/-- Values of integers are compared by their integers rounded to 53 places. Rounding keeps the
    integers up to `2 ^ 53`, and where there are no others, the comparison is exact. -/
theorem integers_compared_rounded (integral : e.Sound JsonNumber.IsInteger)
    (integral' : a.Sound JsonNumber.IsInteger) :
    (e.alike a = true ↔ e.rounded.same a.rounded = true) ∧
    (e.within a = true → ∀ place n, e.at? place = some (.number (.int n)) →
      ∃ m, a.at? place = some (.number (.int m)) ∧
        Number.nearestInt m = Number.nearestInt n) ∧
    (e.Sound JsonNumber.IsExact → a.Sound JsonNumber.IsExact →
      (e.alike a = true ↔ e.same a = true) ∧
      (e.within a = true → ∀ place n, e.at? place = some (.number (.int n)) →
        a.at? place = some (.number (.int n)))) := by
  refine ⟨alike_iff_rounded integral integral', fun inside place n there =>
    exists_integer_at? integral integral' inside there, fun exact exact' => ⟨?equal, ?places⟩⟩
  case equal =>
    rw [alike_iff_rounded integral integral', rounded_of_isExact exact, rounded_of_isExact exact']
  case places =>
    intro inside place n there
    obtain ⟨m, there', same⟩ := exists_integer_at? integral integral' inside there
    cases exact.at? there with
    | number small =>
        cases exact'.at? there' with
        | number small' =>
            rw [Number.nearestInt_of_le small, Number.nearestInt_of_le small'] at same
            exact same ▸ there'

/-- Two neighbours beyond `2 ^ 53` are alike, and two smaller ones are not. -/
theorem integers_compared_rounded_neighbours :
    (number (.int 9007199254740993)).alike (number (.int 9007199254740992)) = true ∧
      (∃ m, (number (.int 9007199254740992)).at? [] = some (.number (.int m)) ∧
        Number.nearestInt m = Number.nearestInt 9007199254740993) ∧
      (number (.int 7)).alike (number (.int 8)) ≠ true := by
  have integral : (number (.int 9007199254740993)).Sound JsonNumber.IsInteger :=
    .number (by decide)
  have integral' : (number (.int 9007199254740992)).Sound JsonNumber.IsInteger :=
    .number (by decide)
  obtain ⟨equal, places, -⟩ := integers_compared_rounded integral integral'
  have alike := equal.mpr (by decide +kernel)
  have inside : (number (.int 9007199254740993)).within (number (.int 9007199254740992)) = true :=
    alike
  have seven : (number (.int 7)).Sound JsonNumber.IsInteger := .number (by decide)
  have eight : (number (.int 8)).Sound JsonNumber.IsInteger := .number (by decide)
  have exact := (integers_compared_rounded seven eight).2.2 (.number (by decide)) (.number (by decide))
  exact ⟨alike, places inside [] 9007199254740993 rfl, fun same => by
    cases exact.1.mp same⟩

/-- Two different integers that are accepted for each other. -/
theorem alike_of_neighbours :
    (number (.int 9007199254740992)).Sound JsonNumber.IsInteger ∧
      (number (.int 9007199254740993)).Sound JsonNumber.IsInteger ∧
      (number (.int 9007199254740992)).alike (number (.int 9007199254740993)) = true ∧
      (number (.int 9007199254740993)).within (number (.int 9007199254740992)) = true ∧
      (number (.int 9007199254740992)).same (number (.int 9007199254740993)) = false := by
  have integer : (JsonNumber.int 9007199254740992).IsInteger := by decide
  have integer' : (JsonNumber.int 9007199254740993).IsInteger := by decide
  have rounded : Number.nearestInt 9007199254740992 = Number.nearestInt 9007199254740993 := by
    decide +kernel
  exact ⟨.number integer, .number integer', (JsonNumber.alike_int_iff integer integer').mpr rounded,
    (JsonNumber.alike_int_iff integer' integer).mpr rounded.symm, by decide⟩

end Json

end Exchange
