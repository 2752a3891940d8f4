import Mathlib
import Exchange.Proofs.Data.Fields
import Exchange.Proofs.Json.Integers
import Exchange.Proofs.Json.Text
import Exchange.Suite.Printer
import Exchange.Suite.Reader

/-! # Checks read back from what is written of them

A check is written under the name of its alternative and read under the same name, and options that
are left out have their defaults. All numbers that are written are read back from their text.
-/

namespace Exchange

open Json (EachNumber)

/-- A number that a value can hold: an integer of 64 bits, with or without a sign, or a finite double
    that is read back from its text. -/
def JsonNumber.IsKept : JsonNumber → Prop
  | .int n => (JsonNumber.int n).IsInteger
  | .float x => x.isFinite = true ∧ (JsonNumber.float x).ReadsBack

theorem JsonNumber.IsKept.readsBack {n : JsonNumber} (kept : n.IsKept) : n.ReadsBack := by
  cases n with
  | int n => exact JsonNumber.read?_text_int kept
  | float x => exact kept.2

theorem JsonNumber.IsKept.isFinite {n : JsonNumber} (kept : n.IsKept) : n.IsFinite := by
  cases n with
  | int n => trivial
  | float x => exact kept.1

theorem JsonNumber.readsBack_ofNat {n : Nat} (small : n < 2 ^ 64) : (int n).ReadsBack :=
  read?_text_int ⟨by omega, by omega⟩

/-- The number of a check fits a machine word, or it is finite and read back, as all numbers of a
    value are. -/
def QueryCheck.Writable : QueryCheck → Prop
  | nodeCount n => n < 2 ^ 64
  | number x => (JsonNumber.float x).IsKept
  | value j => j.Sound JsonNumber.IsKept
  | _ => True

theorem natBelow?_ofNat {n k : Nat} (below : n < 2 ^ k) :
    Datum.natBelow? (Nat.pow 2 k) (.int n) = some n := by
  rw [Datum.natBelow?, if_pos ⟨Int.natCast_nonneg n, Int.ofNat_lt.mpr below⟩, Int.toNat_natCast]

section Objects

variable {members : List (String × Json)} {names : List String}

theorem fields?_ofMembers (distinct : names.Nodup) (once : (members.map Prod.fst).Nodup) :
    (Datum.ofJson (.ofMembers members)).fields? names =
      some (names.map fun name => (Table.find? name members).map Datum.ofJson) := by
  rw [Json.ofMembers, Datum.fields?_object distinct (Table.sorted_ofList members).nodup]
  simp only [Table.find?_perm (Table.sorted_ofList members).nodup (Table.perm_ofList once)]

theorem eachNumber_ofMembers {condition : JsonNumber → Prop}
    (each : ∀ member ∈ members, member.2.EachNumber condition) :
    (Json.ofMembers members).EachNumber condition :=
  .object fun member listed => each member (Table.mem_ofList listed)

theorem eachNumber_only {condition : JsonNumber → Prop} {name : String} {j : Json}
    (each : j.EachNumber condition) : (Json.only name j).EachNumber condition :=
  .object fun _ listed => List.mem_singleton.mp listed ▸ each

end Objects

theorem text?_string (text : String) : Datum.text? (.ofJson (.string text)) = some text := rfl

theorem texts?_ofTexts (texts : List String) :
    Datum.texts? (.ofJson (.ofTexts texts)) = some texts := by
  have read : (Datum.ofJsonItems (texts.map .string)).mapM Datum.text? = some texts := by
    induction texts with
    | nil => rfl
    | cons text texts ih =>
        rw [List.map_cons, Datum.ofJsonItems, List.mapM_cons, ih]
        rfl
  exact read

theorem mapM_textMembers (table : Table String) :
    ((Datum.ofJsonMembers (table.map fun (name, text) => (name, .string text))).mapM
      fun (key, value) => do
        let name ← key.text?
        let text ← value.text?
        some (name, text)) = some table := by
  induction table with
  | nil => rfl
  | cons entry table ih =>
      rw [List.map_cons, Datum.ofJsonMembers, List.mapM_cons, ih]
      rfl

theorem textTable?_members {table : Table String} (sorted : table.Sorted) :
    Datum.textTable? (.ofJson (.object (table.map fun (name, text) => (name, .string text)))) =
      some table := by
  rw [Datum.ofJson, Datum.textTable?, mapM_textMembers, Option.bind_eq_bind, Option.bind_some,
    Table.ofList_of_sorted sorted]

theorem eachNumber_ofTexts {condition : JsonNumber → Prop} (texts : List String) :
    (Json.ofTexts texts).EachNumber condition := by
  refine .array fun item listed => ?_
  obtain ⟨text, -, rfl⟩ := List.mem_map.mp listed
  exact .string text

theorem eachNumber_ofTextTable {condition : JsonNumber → Prop} (table : Table String) :
    (Json.object (table.map fun (name, text) => (name, .string text))).EachNumber condition := by
  refine .object fun member listed => ?_
  obtain ⟨entry, -, rfl⟩ := List.mem_map.mp listed
  exact .string entry.2

namespace TextMatcher

theorem read?_toJson (m : TextMatcher) : read? (.ofJson m.toJson) = some m := by
  cases m with
  | compare op expected => cases op <;> rfl
  | pattern p => rfl
  | presence b => rfl

theorem eachNumber_toJson (m : TextMatcher) : m.toJson.EachNumber JsonNumber.ReadsBack := by
  cases m with
  | compare op expected => cases op <;> exact eachNumber_only (.string _)
  | pattern p => exact eachNumber_only (.string _)
  | presence b => exact eachNumber_only (.bool _)

end TextMatcher

namespace TextOptions

theorem read?_toJson (o : TextOptions) : read? (.ofJson o.toJson) = some o := by
  obtain ⟨caseSensitive, negated⟩ := o
  cases negated <;>
    rw [read?, toJson, fields?_ofMembers (by decide) (by simp)] <;>
    rfl

theorem eachNumber_toJson (o : TextOptions) : o.toJson.EachNumber JsonNumber.ReadsBack := by
  obtain ⟨caseSensitive, negated⟩ := o
  refine eachNumber_ofMembers (List.forall_mem_cons.mpr ⟨.bool _, ?_⟩)
  cases negated with
  | false => exact List.forall_mem_nil _
  | true => exact List.forall_mem_singleton.mpr (.bool true)

end TextOptions

namespace TextCheck

theorem read?_toJson (c : TextCheck) : read? (.ofJson c.toJson) = some c := by
  rw [read?, toJson, fields?_ofMembers (by decide) (by simp)]
  simp [fieldNames, Table.find?, required, defaulting, TextMatcher.read?_toJson,
    TextOptions.read?_toJson]

theorem eachNumber_toJson (c : TextCheck) : c.toJson.EachNumber JsonNumber.ReadsBack :=
  eachNumber_ofMembers (List.forall_mem_cons.mpr ⟨c.matcher.eachNumber_toJson,
    List.forall_mem_singleton.mpr c.options.eachNumber_toJson⟩)

end TextCheck

namespace QueryCheck

variable {check : QueryCheck}

theorem ofFloat_eq {x : Float} (finite : x.isFinite = true) :
    Json.ofFloat x = .number (.float x) := if_pos finite

theorem read?_toJson (writable : check.Writable) : read? (.ofJson check.toJson) = some check := by
  cases check with
  | present b => rfl
  | nodeCount n =>
      have opened : Datum.alternative? names (.ofJson (toJson (nodeCount n))) = some (1, .int n) :=
        rfl
      rw [read?, opened, Option.bind_eq_bind, Option.bind_some]
      -- Evaluation would take the bound apart, so the alternatives are told apart by hand.
      split
      case h_2 same =>
        cases same
        rw [natBelow?_ofNat writable, Option.map_some]
      case h_7 other _ _ _ _ => exact absurd rfl (other _)
      all_goals
        rename_i same
        cases same
  | text check =>
      have opened : read? (.ofJson (toJson (text check))) =
          (TextCheck.read? (.ofJson check.toJson)).map text := rfl
      rw [opened, check.read?_toJson, Option.map_some]
  | number x =>
      rw [toJson, ofFloat_eq writable.1]
      rfl
  | boolean b => rfl
  | value j =>
      have opened : read? (.ofJson (toJson (value j))) = (Datum.ofJson j).toJson?.map value := rfl
      rw [opened, Json.toJson?_ofJson (writable.imp fun _ => JsonNumber.IsKept.isFinite),
        Option.map_some]

theorem eachNumber_toJson (writable : check.Writable) :
    check.toJson.EachNumber JsonNumber.ReadsBack := by
  cases check with
  | present b => exact eachNumber_only (.bool b)
  | nodeCount n => exact eachNumber_only (.number (JsonNumber.readsBack_ofNat writable))
  | text check => exact eachNumber_only check.eachNumber_toJson
  | number x =>
      rw [toJson, ofFloat_eq writable.1]
      exact eachNumber_only (.number writable.2)
  | boolean b => exact eachNumber_only (.bool b)
  | value j => exact eachNumber_only (writable.eachNumber fun _ => JsonNumber.IsKept.readsBack)

end QueryCheck

end Exchange
