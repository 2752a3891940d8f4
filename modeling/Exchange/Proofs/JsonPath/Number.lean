import Mathlib
import Exchange.Proofs.JsonPath.Evaluation
import Exchange.Proofs.Number.Numeral

/-! # Where a JSON path is asked for a number

A text is a number if it is a decimal numeral without the blanks around it. Of words only those for
infinity are numbers too; any other text, a truth value, an array and an object are refused.
-/

namespace Exchange.JsonPath

open Query (Found Mode)

variable {q : JsonPathQuery} {document j : Json} {s : String}

theorem numberOf?_string_eq_some_iff {x : Float} :
    numberOf? (.string s) = some x ↔ Number.readFloat? (Text.trim s) = some x ∧ x.isNaN = false := by
  rw [numberOf?, Option.filter_eq_some_iff, Bool.not_eq_true']

theorem evaluate_number_of_one (one : select q.path document = [j]) (there : j.isNull = false) :
    evaluate q document .number = match numberOf? j with
      | some x => .ok (.number x)
      | none => .error (.coercion q.expression.text j.text .number) := by
  rw [evaluate_of_one (by decide) one, coerceSingle, there, if_neg Bool.false_ne_true]
  rfl

theorem evaluate_number_eq_ok_iff (one : select q.path document = [.string s]) {x : Float} :
    evaluate q document .number = .ok (.number x) ↔
      Number.readFloat? (Text.trim s) = some x ∧ x.isNaN = false := by
  rw [evaluate_number_of_one one rfl, ← numberOf?_string_eq_some_iff]
  cases numberOf? (.string s) <;> simp

theorem evaluate_number_of_numberOf?_eq_none (one : select q.path document = [j])
    (there : j.isNull = false) (none : numberOf? j = none) : evaluate q document .number =
      .error (.coercion q.expression.text j.text .number) := by
  rw [evaluate_number_of_one one there, none]

theorem exists_evaluate_number_iff (one : select q.path document = [.string s]) :
    (∃ x, evaluate q document .number = .ok (.number x)) ↔
      Number.IsNumeric (Text.trim s).toList := by
  rw [← Number.exists_readFloat?_iff]
  exact exists_congr fun x => evaluate_number_eq_ok_iff one

/-- The values that are no number in themselves and no text: neither is a null, which is absent. -/
inductive NeverNumeric : Json → Prop where
  | bool (b : Bool) : NeverNumeric (.bool b)
  | array (items : List Json) : NeverNumeric (.array items)
  | object (members : Table Json) : NeverNumeric (.object members)

theorem NeverNumeric.evaluate_number (never : NeverNumeric j)
    (one : select q.path document = [j]) : evaluate q document .number =
      .error (.coercion q.expression.text j.text .number) := by
  cases never with
  | bool | array | object => exact evaluate_number_of_numberOf?_eq_none one rfl rfl

/-- What a single match comes to where a number is asked for. -/
structure NumberLaw (q : JsonPathQuery) (document : Json) : Prop where
  text : ∀ s, select q.path document = [.string s] →
    ((∃ x, evaluate q document .number = .ok (.number x)) ↔
      Number.IsDecimal (Text.trim s).toList ∨ Number.IsInfinity (Text.trim s).toList)
  decimal : ∀ s n, select q.path document = [.string s] → Number.Spells (Text.trim s).toList n →
    evaluate q document .number = .ok (.number n.value)
  /-- A word for infinity is no numeral, but evaluated as if it were one. -/
  infinity : ∀ s, select q.path document = [.string s] → Number.IsInfinity (Text.trim s).toList →
    ¬Number.IsDecimal (Text.trim s).toList ∧
      ∃ x, x.isInf = true ∧ evaluate q document .number = .ok (.number x)
  otherText : ∀ s, select q.path document = [.string s] →
    ¬Number.IsDecimal (Text.trim s).toList → ¬Number.IsInfinity (Text.trim s).toList →
    evaluate q document .number = .error (.coercion q.expression.text (Json.string s).text .number)
  other : ∀ j, select q.path document = [j] → NeverNumeric j →
    evaluate q document .number = .error (.coercion q.expression.text j.text .number)

theorem numberLaw (q : JsonPathQuery) (document : Json) : NumberLaw q document where
  text s one := exists_evaluate_number_iff one
  decimal s n one spells := by
    have read : Number.readFloat? (Text.trim s) = some n.value := by
      rw [Number.readFloat?, Number.readNumeral?_eq_some_iff.mpr spells]
    exact (evaluate_number_eq_ok_iff one).mpr ⟨read, n.isNaN_value⟩
  infinity s one infinity := by
    obtain ⟨negative, read⟩ := infinity.readFloat?
    refine ⟨infinity.not_isDecimal, _, Number.isInf_signedInfinity negative, ?_⟩
    exact (evaluate_number_eq_ok_iff one).mpr ⟨read, Number.isNaN_signedInfinity negative⟩
  otherText s one notDecimal notInfinity := by
    refine evaluate_number_of_numberOf?_eq_none one rfl ?_
    rw [Option.eq_none_iff_forall_ne_some]
    intro x number
    rcases Number.exists_readFloat?_iff.mp ⟨x, numberOf?_string_eq_some_iff.mp number⟩ with
      decimal | infinity
    · exact notDecimal decimal
    · exact notInfinity infinity
  other j one never := never.evaluate_number one

/-- A text with blanks around a numeral is a number, the word for what is no number is none, and
    neither is an array of a number. -/
theorem numberLaw_numeral :
    ∃ q : JsonPathQuery, compile ⟨"$.a", []⟩ = .ok q ∧ q.definite = true ∧
      (∃ x, evaluate q (.object [("a", .string " -1.e3 ")]) .number = .ok (.number x)) ∧
      evaluate q (.object [("a", .string "NaN")]) .number =
        .error (.coercion "$.a" "\"NaN\"" .number) ∧
      evaluate q (.object [("a", .array [.number (.int 1)])]) .number =
        .error (.coercion "$.a" "[1]" .number) := by
  let q : JsonPathQuery := ⟨⟨"$.a", []⟩, [.child [.name "a"]], true⟩
  have compiled : compile ⟨"$.a", []⟩ = .ok q := by cbv
  have spelt : select q.path (.object [("a", .string " -1.e3 ")]) = [.string " -1.e3 "] := by cbv
  have word : select q.path (.object [("a", .string "NaN")]) = [.string "NaN"] := by cbv
  have items : select q.path (.object [("a", .array [.number (.int 1)])]) =
      [.array [.number (.int 1)]] := by cbv
  have numeral : Number.Spells (Text.trim " -1.e3 ").toList ⟨true, ['1'], [], 3⟩ :=
    Number.readNumeral?_eq_some_iff.mp (by decide +kernel)
  have noNumeral : ¬Number.IsDecimal (Text.trim "NaN").toList :=
    Number.readNumeral?_eq_none_iff.mp (by decide +kernel)
  have noInfinity : ¬Number.IsInfinity (Text.trim "NaN").toList := by
    intro infinity
    obtain ⟨negative, read⟩ := infinity.readNumberWord?
    have number := congrArg (Option.map Float.isNaN) read
    rw [Option.map_some, Number.isNaN_signedInfinity] at number
    exact absurd number (by decide +kernel)
  refine ⟨q, compiled, rfl, ⟨_, (numberLaw q _).decimal _ _ spelt numeral⟩, ?_, ?_⟩
  · have refused := (numberLaw q _).otherText _ word noNumeral noInfinity
    rwa [show (Json.string "NaN").text = "\"NaN\"" by decide +kernel] at refused
  · exact (numberLaw q _).other _ items (.array _)

/-- A word for infinity is evaluated as a number. -/
theorem infinity_is_number :
    ∃ q : JsonPathQuery, compile ⟨"$.a", []⟩ = .ok q ∧ q.definite = true ∧
      select q.path (.object [("a", .string "inf")]) = [.string "inf"] ∧
      ¬Number.IsDecimal (Text.trim "inf").toList ∧
      ∃ x, evaluate q (.object [("a", .string "inf")]) .number = .ok (.number x) := by
  let q : JsonPathQuery := ⟨⟨"$.a", []⟩, [.child [.name "a"]], true⟩
  have compiled : compile ⟨"$.a", []⟩ = .ok q := by cbv
  have one : select q.path (.object [("a", .string "inf")]) = [.string "inf"] := by cbv
  have infinity : Number.IsInfinity (Text.trim "inf").toList := .word .none (by decide +kernel)
  refine ⟨q, compiled, rfl, one, infinity.not_isDecimal, ?_⟩
  exact (exists_evaluate_number_iff one).mpr (.inr infinity)

end Exchange.JsonPath
