import Mathlib
import Exchange.JsonPath.Query
import Exchange.Proofs.Data.Table

/-! # Well-formed JSON values

The members of an object stand in the order of their names, each name once, and every number is
finite. A document that is read is such a value, and such a value is not changed by being said by a
datum.
-/

namespace Exchange

/-- A number that is an integer or a finite double. -/
def JsonNumber.IsFinite : JsonNumber → Prop
  | .int _ => True
  | .float x => x.isFinite = true

namespace Json

/-- The members of every object are in order, and every number meets a condition. -/
inductive Sound (condition : JsonNumber → Prop) : Json → Prop where
  | null : Sound condition .null
  | bool (b : Bool) : Sound condition (.bool b)
  | number {n : JsonNumber} (met : condition n) : Sound condition (.number n)
  | string (s : String) : Sound condition (.string s)
  | array {items : List Json} (sound : ∀ item ∈ items, Sound condition item) :
      Sound condition (.array items)
  | object {members : List (String × Json)} (sorted : Table.Sorted members)
      (sound : ∀ entry ∈ members, Sound condition entry.2) : Sound condition (.object members)

/-- A value as documents have it. -/
abbrev WellFormed (j : Json) : Prop := j.Sound JsonNumber.IsFinite

theorem Sound.imp {condition weaker : JsonNumber → Prop} {j : Json} (sound : j.Sound condition)
    (weaken : ∀ n, condition n → weaker n) : j.Sound weaker := by
  induction sound with
  | null => exact .null
  | bool b => exact .bool b
  | number met => exact .number (weaken _ met)
  | string s => exact .string s
  | array _ ih => exact .array ih
  | object sorted _ ih => exact .object sorted ih

mutual
theorem wellFormed_of_toJson? {datum : Datum} {j : Json} (said : datum.toJson? = some j) :
    j.WellFormed := by
  cases datum with
  | null =>
      cases said
      exact .null
  | bool b =>
      cases said
      exact .bool b
  | int n =>
      cases said
      exact .number trivial
  | float x =>
      simp only [Datum.toJson?, Option.some.injEq] at said
      split at said
      · rename_i finite
        subst said
        exact .number finite
      · subst said
        exact .null
  | string s =>
      cases said
      exact .string s
  | list data =>
      simp only [Datum.toJson?, Option.map_eq_some_iff] at said
      obtain ⟨items, saidItems, rfl⟩ := said
      exact .array (wellFormed_of_toJsonItems? saidItems)
  | record entries =>
      simp only [Datum.toJson?, Option.map_eq_some_iff] at said
      obtain ⟨members, saidMembers, rfl⟩ := said
      exact .object (Table.sorted_ofList members) fun entry listed =>
        wellFormed_of_toJsonMembers? saidMembers entry (Table.mem_ofList listed)
termination_by sizeOf datum

private theorem wellFormed_of_toJsonItems? {data : List Datum} {items : List Json}
    (said : Datum.toJsonItems? data = some items) : ∀ item ∈ items, item.WellFormed := by
  cases data with
  | nil =>
      cases said
      exact fun _ listed => absurd listed List.not_mem_nil
  | cons datum data =>
      simp only [Datum.toJsonItems?, bind, Option.bind_eq_some_iff] at said
      obtain ⟨j, saidHere, js, saidLater, same⟩ := said
      cases same
      exact List.forall_mem_cons.mpr
        ⟨wellFormed_of_toJson? saidHere, wellFormed_of_toJsonItems? saidLater⟩
termination_by sizeOf data

private theorem wellFormed_of_toJsonMembers? {entries : List (Datum × Datum)}
    {members : List (String × Json)} (said : Datum.toJsonMembers? entries = some members) :
    ∀ entry ∈ members, entry.2.WellFormed := by
  match entries with
  | [] =>
      cases said
      exact fun _ listed => absurd listed List.not_mem_nil
  | (.string name, value) :: entries =>
      simp only [Datum.toJsonMembers?, bind, Option.bind_eq_some_iff] at said
      obtain ⟨j, saidHere, js, saidLater, same⟩ := said
      cases same
      exact List.forall_mem_cons.mpr
        ⟨wellFormed_of_toJson? saidHere, wellFormed_of_toJsonMembers? saidLater⟩
termination_by sizeOf entries
end

/-- What is read as a document is a well-formed value. -/
theorem wellFormed_of_readDocument {content : String} {j : Json}
    (read : JsonPath.readDocument content = .ok j) : j.WellFormed := by
  simp only [JsonPath.readDocument] at read
  split at read
  · rename_i value said
    cases read
    obtain ⟨datum, -, said⟩ := Option.bind_eq_some_iff.mp said
    exact wellFormed_of_toJson? said
  · cases read

theorem toJsonItems?_ofJsonItems {items : List Json}
    (each : ∀ item ∈ items, (Datum.ofJson item).toJson? = some item) :
    Datum.toJsonItems? (Datum.ofJsonItems items) = some items := by
  induction items with
  | nil => rfl
  | cons item items ih =>
      obtain ⟨here, later⟩ := List.forall_mem_cons.mp each
      simp [Datum.ofJsonItems, Datum.toJsonItems?, here, ih later]

theorem toJsonMembers?_ofJsonMembers {members : List (String × Json)}
    (each : ∀ member ∈ members, (Datum.ofJson member.2).toJson? = some member.2) :
    Datum.toJsonMembers? (Datum.ofJsonMembers members) = some members := by
  induction members with
  | nil => rfl
  | cons member members ih =>
      obtain ⟨here, later⟩ := List.forall_mem_cons.mp each
      simp [Datum.ofJsonMembers, Datum.toJsonMembers?, here, ih later]

theorem toJson?_ofJson {j : Json} (sound : j.WellFormed) : (Datum.ofJson j).toJson? = some j := by
  induction sound with
  | null => rfl
  | bool b => rfl
  | @number n met =>
      cases n with
      | int n => rfl
      | float x =>
          have finite : x.isFinite = true := met
          simp [Datum.ofJson, Datum.toJson?, finite]
  | string s => rfl
  | array _ ih => simp [Datum.ofJson, Datum.toJson?, toJsonItems?_ofJsonItems ih]
  | object sorted _ ih =>
      simp [Datum.ofJson, Datum.toJson?, toJsonMembers?_ofJsonMembers ih,
        Table.ofList_of_sorted sorted]

end Json

end Exchange
