import Mathlib
import Exchange.Proofs.JsonPath.Definite
import Exchange.Proofs.Query.Question

/-! # The value at a JSON path

A definite path is compared by its only match and any other path by the list of its matches, yet
where a single value is expected the two routes come to the same: the list has to have one item, the
value itself, and an empty list stands for null. Where an array is expected, an indefinite path is
compared by the array of its matches, unless there are none.
-/

namespace Exchange

namespace Json

theorem isNull_iff {j : Json} : j.isNull = true ↔ j = .null := by
  cases j <;> simp [isNull]

theorem alike_null_iff {j : Json} : j.alike .null = true ↔ j = .null := by
  cases j <;> simp [alike]

end Json

namespace JsonQuestion

open JsonPath (isDefinite compile)
open Question (ReadsAs find_of_readsAs)

variable {q : JsonPathQuery} {r : Response} {document expected : Json}

/-- A definite path selects its first match, where null counts as absent. -/
theorem select_of_definite (body : ReadsAs JsonPathQuery r document) (definite : q.definite = true)
    (asked : Option Json) : select q r asked =
      .ok ((JsonPath.select q.path document).head?.filter fun j => !j.isNull) := by
  have natural : Query.Engine.naturalMode q = .singleNode := if_pos definite
  have evaluated : Query.Engine.evaluate q document .singleNode =
      .ok (JsonPath.firstFound (JsonPath.select q.path document)) :=
    JsonPath.evaluate_singleNode q document
  rw [select, natural, find_of_readsAs body, evaluated]
  cases JsonPath.select q.path document with
  | nil => rfl
  | cons j others =>
      rw [JsonPath.firstFound, List.head?_cons, Option.filter_some]
      cases j.isNull <;> rfl

theorem select_of_indefinite (body : ReadsAs JsonPathQuery r document)
    (indefinite : q.definite = false) (asked : Option Json) :
    select q r asked = ofMatches q asked (JsonPath.select q.path document) := by
  have natural : Query.Engine.naturalMode q = .nodeSet :=
    if_neg (ne_true_of_eq_false indefinite)
  have evaluated : Query.Engine.evaluate q document .nodeSet =
      .ok (.nodes (JsonPath.select q.path document)) := JsonPath.evaluate_nodeSet q document
  rw [select, natural, find_of_readsAs body, evaluated]
  rfl

/-- A selected value meets an expected one; where nothing is selected, null is expected. -/
def Meets (expected : Json) : Option Json → Prop
  | none => expected = .null
  | some j => expected.alike j = true

theorem value_eq_pass_iff : rule q r (.value expected) = Ruling.pass ↔
    ∃ selected, select q r (some expected) = .ok selected ∧ Meets expected selected := by
  simp only [rule, Ruling.pass, bind_eq_ok_iff]
  refine exists_congr fun selected => and_congr_right fun _ => ?_
  cases selected with
  | none => exact Ruling.require_eq_pass_iff.trans Json.isNull_iff
  | some j =>
      dsimp only [Meets]
      split
      · simp [*]
      · simp [*]

/-- What the matches have to be where a single value is expected: that value alone, or nothing at
    all where it is null. -/
def SingleMatch (expected : Json) (matched : List Json) : Prop :=
  (matched = [] ∧ expected = .null) ∨ ∃ j, matched = [j] ∧ expected.alike j = true

theorem meets_first_iff {matched : List Json} (few : matched.length ≤ 1) :
    Meets expected (matched.head?.filter fun j => !j.isNull) ↔ SingleMatch expected matched := by
  match matched, few with
  | [], _ => simp [Meets, SingleMatch]
  | [j], _ =>
      cases null : j.isNull with
      | false =>
          have kept : [j].head?.filter (fun j => !j.isNull) = some j := by
            simp [Option.filter, null]
          rw [kept]
          simp [Meets, SingleMatch]
      | true =>
          have dropped : [j].head?.filter (fun j => !j.isNull) = none := by
            simp [Option.filter, null]
          rw [dropped, Json.isNull_iff.mp null]
          simp [Meets, SingleMatch, Json.alike_null_iff]

theorem meets_single_iff {matched : List Json} (single : expected.isArray = false) :
    (∃ selected, ofMatches q (some expected) matched = .ok selected ∧ Meets expected selected) ↔
      SingleMatch expected matched := by
  simp only [ofMatches, single, Bool.false_eq_true, ↓reduceIte]
  match matched with
  | [] => simp [JsonQuestion.single, Meets, SingleMatch]
  | [j] => simp [JsonQuestion.single, Meets, SingleMatch]
  | j :: k :: others => simp [JsonQuestion.single, SingleMatch]

theorem value_eq_pass_iff_singleMatch {e : Query.Expression} (compiled : compile e = .ok q)
    (body : ReadsAs JsonPathQuery r document)
    (single : expected.isArray = false ∨ isDefinite e.text = true) :
    rule q r (.value expected) = Ruling.pass ↔
      SingleMatch expected (JsonPath.select q.path document) := by
  obtain ⟨read, built⟩ := JsonPath.compile_eq_ok_iff.mp compiled
  have sameScan : q.definite = isDefinite e.text := congrArg JsonPathQuery.definite built
  rw [value_eq_pass_iff]
  cases definite : q.definite with
  | true =>
      have steps : JsonPath.Path.single q.path = true :=
        (JsonPath.isDefinite_eq_single read).symm.trans (sameScan.symm.trans definite)
      rw [select_of_definite body definite]
      simp only [Except.ok.injEq, exists_eq_left']
      exact meets_first_iff (JsonPath.length_select_le_one steps document)
  | false =>
      rw [select_of_indefinite body definite]
      refine meets_single_iff (single.resolve_right ?_)
      rw [← sameScan, definite]
      exact Bool.false_ne_true

/-- Where no array is expected, or the path is definite, the value passes exactly if the only match
    is alike to it, or if there is no match and it is null. Hence two paths, definite or not, with
    the same matches are ruled on alike, and two matches or more never pass. -/
theorem value_single {e : Query.Expression} (compiled : compile e = .ok q)
    (body : ReadsAs JsonPathQuery r document)
    (single : expected.isArray = false ∨ isDefinite e.text = true) :
    (rule q r (.value expected) = Ruling.pass ↔
      (JsonPath.select q.path document = [] ∧ expected = .null) ∨
        ∃ j, JsonPath.select q.path document = [j] ∧ expected.alike j = true) ∧
    (2 ≤ (JsonPath.select q.path document).length →
      rule q r (.value expected) ≠ Ruling.pass) ∧
    ∀ (e' : Query.Expression) (q' : JsonPathQuery) (r' : Response) (document' : Json),
      compile e' = .ok q' → ReadsAs JsonPathQuery r' document' →
      (expected.isArray = false ∨ isDefinite e'.text = true) →
      JsonPath.select q'.path document' = JsonPath.select q.path document →
      (rule q' r' (.value expected) = Ruling.pass ↔ rule q r (.value expected) = Ruling.pass) := by
  have passes := value_eq_pass_iff_singleMatch compiled body single
  refine ⟨passes, ?_, ?_⟩
  · intro many passed
    rcases passes.mp passed with ⟨none, -⟩ | ⟨j, one, -⟩
    · simp [none] at many
    · simp [one] at many
  · intro e' q' r' document' compiled' body' single' same
    rw [value_eq_pass_iff_singleMatch compiled' body' single', same, passes]

/-- A path with an asterisk whose only match is null. -/
theorem value_single_null :
    ∃ (q : JsonPathQuery) (r : Response) (document : Json),
      compile ⟨"$.a[*]", []⟩ = .ok q ∧ ReadsAs JsonPathQuery r document ∧
      JsonPath.select q.path document = [.null] ∧
      rule q r (.value .null) = Ruling.pass ∧ rule q r (.value (.bool false)) ≠ Ruling.pass := by
  let r : Response := { body := Text.Utf8.encode "\x7b\"a\":[null]\x7d" }
  let document : Json := .object [("a", .array [.null])]
  have body : ReadsAs JsonPathQuery r document :=
    ⟨"\x7b\"a\":[null]\x7d", by cbv, by cbv⟩
  have compiled : compile ⟨"$.a[*]", []⟩ =
      .ok ⟨⟨"$.a[*]", []⟩, [.child [.name "a"], .child [.wildcard]], false⟩ := by cbv
  have one : JsonPath.select [.child [.name "a"], .child [.wildcard]] document = [.null] := by cbv
  refine ⟨_, r, document, compiled, body, one, ?_, ?_⟩
  · exact (value_single compiled body (.inl rfl)).1.mpr (.inr ⟨.null, one, by cbv⟩)
  · intro passed
    rcases (value_single compiled body (.inl rfl)).1.mp passed with ⟨none, -⟩ | ⟨j, only, same⟩
    · cases one.symm.trans none
    · cases one.symm.trans only
      cases same

theorem meets_array_iff {items matched : List Json} :
    (∃ selected, ofMatches q (some (.array items)) matched = .ok selected ∧
      Meets (.array items) selected) ↔
    matched ≠ [] ∧ (Json.array items).alike (.array matched) = true := by
  cases matched with
  | nil => simp [ofMatches, ofMatches.array, Json.isArray, Meets]
  | cons j others => simp [ofMatches, ofMatches.array, Json.isArray, Meets]

theorem alike_no_items {items : List Json} :
    (Json.array items).alike (.array []) = true ↔ items = [] := by
  cases items <;> simp [Json.alike, Json.alikeItems]

/-- Where an array is expected of an indefinite path, the value passes exactly if there are matches
    and their array is alike to it. So the array of all matches decides unless no match is to be
    compared with no item: an empty list is no value, not even an empty array. -/
theorem value_array {e : Query.Expression} (compiled : compile e = .ok q)
    (body : ReadsAs JsonPathQuery r document) (indefinite : isDefinite e.text = false)
    (items : List Json) :
    (rule q r (.value (.array items)) = Ruling.pass ↔
      JsonPath.select q.path document ≠ [] ∧
        (Json.array items).alike (.array (JsonPath.select q.path document)) = true) ∧
    ((rule q r (.value (.array items)) = Ruling.pass ↔
        (Json.array items).alike (.array (JsonPath.select q.path document)) = true) ↔
      ¬(JsonPath.select q.path document = [] ∧ items = [])) := by
  obtain ⟨-, built⟩ := JsonPath.compile_eq_ok_iff.mp compiled
  have indefinite : q.definite = false := (congrArg JsonPathQuery.definite built).trans indefinite
  have passes : rule q r (.value (.array items)) = Ruling.pass ↔
      JsonPath.select q.path document ≠ [] ∧
        (Json.array items).alike (.array (JsonPath.select q.path document)) = true := by
    rw [value_eq_pass_iff, select_of_indefinite body indefinite]
    exact meets_array_iff
  refine ⟨passes, ?_⟩
  rw [passes]
  by_cases none : JsonPath.select q.path document = []
  · rw [none, alike_no_items]
    simp
  · simp [none]

/-- The empty array is alike to the array of no matches, and yet it is refused. -/
theorem value_array_no_match :
    ∃ (q : JsonPathQuery) (r : Response) (document : Json),
      compile ⟨"$.a[*]", []⟩ = .ok q ∧ isDefinite "$.a[*]" = false ∧
      ReadsAs JsonPathQuery r document ∧ JsonPath.select q.path document = [] ∧
      (Json.array []).alike (.array (JsonPath.select q.path document)) = true ∧
      rule q r (.value (.array [])) = Ruling.fail "No value at JSON path $.a[*]" := by
  refine ⟨⟨⟨"$.a[*]", []⟩, [.child [.name "a"], .child [.wildcard]], false⟩,
    { body := Text.Utf8.encode "\x7b\"a\":[]\x7d" }, .object [("a", .array [])], ?_⟩
  refine ⟨by cbv, by decide +kernel, ⟨"\x7b\"a\":[]\x7d", by cbv, by cbv⟩, by cbv, by cbv, by cbv⟩

/-- One match is compared as the array that holds it. -/
theorem value_array_one_match :
    ∃ (q : JsonPathQuery) (r : Response) (document : Json),
      compile ⟨"$.a[*]", []⟩ = .ok q ∧ isDefinite "$.a[*]" = false ∧
      ReadsAs JsonPathQuery r document ∧
      rule q r (.value (.array [.bool true])) = Ruling.pass ∧
      rule q r (.value (.array [])) ≠ Ruling.pass := by
  let r : Response := { body := Text.Utf8.encode "\x7b\"a\":[true]\x7d" }
  let document : Json := .object [("a", .array [.bool true])]
  have body : ReadsAs JsonPathQuery r document :=
    ⟨"\x7b\"a\":[true]\x7d", by cbv, by cbv⟩
  have compiled : compile ⟨"$.a[*]", []⟩ =
      .ok ⟨⟨"$.a[*]", []⟩, [.child [.name "a"], .child [.wildcard]], false⟩ := by cbv
  have indefinite : isDefinite "$.a[*]" = false := by decide +kernel
  have one : JsonPath.select [.child [.name "a"], .child [.wildcard]] document = [.bool true] := by
    cbv
  refine ⟨_, r, document, compiled, indefinite, body, ?_, ?_⟩
  · rw [(value_array compiled body indefinite [.bool true]).1, one]
    exact ⟨List.cons_ne_nil _ _, by cbv⟩
  · rw [ne_eq, (value_array compiled body indefinite []).1, one]
    exact fun passed => absurd passed.2 (by decide +kernel)

end JsonQuestion

end Exchange
