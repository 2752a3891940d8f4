import Mathlib
import Exchange.Proofs.JsonPath.Value
import Exchange.Proofs.Query.Existence

/-! # Emptiness and existence at a JSON path

Whether something exists is asked of what a path finds, and whether it is empty, an array or an
object of the value that is made of it. The two notions fit together: what is not empty exists, what
does not exist is empty, and only an empty text and an empty object exist and are empty.
-/

namespace Exchange.JsonQuestion

open JsonPath (compile isDefinite)
open Query (Engine Found)
open Question (ReadsAs find_of_readsAs)

variable {e : Query.Expression} {q : JsonPathQuery} {r : Response} {document : Json}

theorem exists_readsAs {found : Found Json}
    (finds : Question.find q r (Engine.naturalMode q) = .ok found) :
    ∃ document : Json, ReadsAs JsonPathQuery r document := by
  obtain ⟨decoded, read, -⟩ := Question.find_eq_ok_iff.mp finds
  exact ⟨_, _, decoded, read⟩

theorem rule_of_fault {f : Failure}
    (failed : Question.find q r (Engine.naturalMode q) = .error f) (question : JsonQuestion) :
    rule q r question = .error f := by
  have unselected (asked : Option Json) : select q r asked = .error f := by
    rw [select, failed]
    rfl
  cases question <;>
    · rw [rule, unselected]
      rfl

/-- What the matches of a path look like to the questions about existence and to those about the
    value: a definite path has at most one match, and any other is taken as the list of them. -/
inductive Looks (q : JsonPathQuery) (matched : List Json) : Found Json → Option Json → Prop
  | missing (definite : q.definite = true) (empty : matched = [] ∨ matched = [.null]) :
      Looks q matched .absent none
  | value {j : Json} (definite : q.definite = true) (one : matched = [j]) (there : j ≠ .null) :
      Looks q matched (.node j) (some j)
  | noMatch (indefinite : q.definite = false) (empty : matched = []) :
      Looks q matched (.nodes matched) none
  | some (indefinite : q.definite = false) (filled : matched ≠ []) :
      Looks q matched (.nodes matched) (Option.some (.array matched))

theorem length_select_of_definite (compiled : compile e = .ok q) (definite : q.definite = true)
    (document : Json) : (JsonPath.select q.path document).length ≤ 1 := by
  obtain ⟨read, built⟩ := JsonPath.compile_eq_ok_iff.mp compiled
  have sameScan : q.definite = isDefinite e.text := congrArg JsonPathQuery.definite built
  apply JsonPath.length_select_le_one
  rw [← JsonPath.isDefinite_eq_single read, ← sameScan, definite]

theorem looks_of_definite {matched : List Json} (definite : q.definite = true)
    (few : matched.length ≤ 1) : Looks q matched (JsonPath.firstFound matched)
      (matched.head?.filter fun j => !j.isNull) := by
  match matched, few with
  | [], _ => exact .missing definite (.inl rfl)
  | [j], _ =>
      rw [JsonPath.firstFound, List.head?_cons, Option.filter_some]
      cases null : j.isNull with
      | true => exact .missing definite (.inr (by rw [Json.isNull_iff.mp null]))
      | false =>
          refine .value definite rfl fun same => ?_
          rw [Json.isNull_iff.mpr same] at null
          cases null

theorem looks_of_indefinite (indefinite : q.definite = false) (matched : List Json) :
    Looks q matched (.nodes matched) (ofMatches.array matched) := by
  cases matched with
  | nil => exact .noMatch indefinite rfl
  | cons j others => exact .some indefinite (List.cons_ne_nil j others)

theorem exists_looks (compiled : compile e = .ok q) (body : ReadsAs JsonPathQuery r document) :
    ∃ found selected, Looks q (JsonPath.select q.path document) found selected ∧
      Question.find q r (Engine.naturalMode q) = .ok found ∧ select q r none = .ok selected := by
  cases definite : q.definite with
  | true =>
      have natural : Engine.naturalMode q = .singleNode := if_pos definite
      refine ⟨_, _, looks_of_definite definite (length_select_of_definite compiled definite document),
        ?_, select_of_definite body definite none⟩
      rw [natural, find_of_readsAs body]
      exact JsonPath.evaluate_singleNode q document
  | false =>
      have natural : Engine.naturalMode q = .nodeSet := if_neg (ne_true_of_eq_false definite)
      refine ⟨_, _, looks_of_indefinite definite _, ?_, select_of_indefinite body definite none⟩
      rw [natural, find_of_readsAs body]
      exact JsonPath.evaluate_nodeSet q document

section

variable {selected : Option Json}

theorem isEmpty_eq_pass_iff (selects : select q r none = .ok selected) :
    rule q r .isEmpty = Ruling.pass ↔ ∀ j, selected = some j → j.isEmpty = true := by
  rw [rule, selects]
  exact Ruling.require_eq_pass_iff.trans (Option.all_eq_true _ _)

theorem isNotEmpty_eq_pass_iff (selects : select q r none = .ok selected) :
    rule q r .isNotEmpty = Ruling.pass ↔ ∃ j, selected = some j ∧ j.isEmpty = false := by
  rw [rule, selects]
  refine Ruling.require_eq_pass_iff.trans ?_
  cases selected <;> simp

theorem ofKind_eq_pass_iff {kind : String} {test : Json → Bool} :
    ofKind q kind test selected = Ruling.pass ↔ ∃ j, selected = some j ∧ test j = true := by
  cases selected with
  | none => simp [ofKind, Ruling.pass]
  | some j => simpa [ofKind] using Ruling.require_eq_pass_iff

theorem isArray_eq_pass_iff (selects : select q r none = .ok selected) :
    rule q r .isArray = Ruling.pass ↔ ∃ j, selected = some j ∧ j.isArray = true := by
  rw [rule, selects]
  exact ofKind_eq_pass_iff

theorem isObject_eq_pass_iff (selects : select q r none = .ok selected) :
    rule q r .isObject = Ruling.pass ↔ ∃ j, selected = some j ∧ j.isObject = true := by
  rw [rule, selects]
  exact ofKind_eq_pass_iff

end

theorem isEmpty_iff {j : Json} (there : j ≠ .null) :
    j.isEmpty = true ↔ j = .string "" ∨ j = .array [] ∨ j = .object [] := by
  cases j <;> simp_all [Json.isEmpty]

theorem present_node_iff {j : Json} : (Found.node j).present = true ↔ j ≠ .array [] := by
  simp only [Found.present, bne_iff_ne, ne_eq, Query.itemCount?_eq_zero]

theorem present_nodes_iff {matched : List Json} :
    (Found.nodes matched).present = true ↔ matched ≠ [] := by
  cases matched <;> simp [Found.present]

namespace Looks

variable {matched : List Json} {found : Found Json} {selected : Option Json}

theorem present_of_filled (looks : Looks q matched found selected)
    (filled : ∃ j, selected = .some j ∧ j.isEmpty = false) : found.present = true := by
  obtain ⟨j, rfl, filled⟩ := filled
  cases looks with
  | value =>
      rw [present_node_iff]
      rintro rfl
      cases filled
  | some _ some => exact present_nodes_iff.mpr some

/-- What exists and is empty is an empty text or object, since an empty array does not exist. -/
theorem present_and_empty_iff (looks : Looks q matched found selected) :
    (found.present = true ∧ ∀ j, selected = .some j → j.isEmpty = true) ↔
      q.definite = true ∧ (matched = [.string ""] ∨ matched = [.object []]) := by
  cases looks with
  | missing _ none =>
      rcases none with rfl | rfl <;> simp [Found.present]
  | @value j definite one there =>
      simp only [present_node_iff, Option.some.injEq, forall_eq', isEmpty_iff there, definite, one,
        List.cons.injEq, and_true, true_and]
      constructor
      · rintro ⟨other, text | array | object⟩
        · exact .inl text
        · exact absurd array other
        · exact .inr object
      · rintro (rfl | rfl) <;> simp
  | noMatch indefinite none => simp [indefinite, none, Found.present]
  | some indefinite some => simp [indefinite, some, Json.isEmpty]

theorem present_iff_filled (looks : Looks q matched found selected)
    (indefinite : q.definite = false) :
    (found.present = true ↔ ∃ j, selected = .some j ∧ j.isEmpty = false) ∧
    ((∃ j, selected = .some j ∧ j.isEmpty = false) ↔ ∃ j, selected = .some j ∧ j.isArray = true) := by
  cases looks with
  | missing definite => simp [indefinite] at definite
  | value definite => simp [indefinite] at definite
  | noMatch _ none => simp [none, Found.present]
  | some _ some => simp [some, present_nodes_iff, Json.isEmpty, Json.isArray]

end Looks

/-- How the questions about emptiness and kind stand to those about existence. -/
structure EmptinessFits (e : Query.Expression) (q : JsonPathQuery) (r : Response)
    (document : Json) : Prop where
  opposite : rule q r .isEmpty = Ruling.pass ↔ rule q r .isNotEmpty ≠ Ruling.pass
  presentOfNotEmpty : rule q r .isNotEmpty = Ruling.pass → Question.rule q r .present = Ruling.pass
  emptyOfAbsent : Question.rule q r .absent = Ruling.pass → rule q r .isEmpty = Ruling.pass
  presentAndEmpty :
    Question.rule q r .present = Ruling.pass ∧ rule q r .isEmpty = Ruling.pass ↔
      isDefinite e.text = true ∧ (JsonPath.select q.path document = [.string ""] ∨
        JsonPath.select q.path document = [.object []])
  indefinite : isDefinite e.text = false →
    (Question.rule q r .present = Ruling.pass ↔ rule q r .isNotEmpty = Ruling.pass) ∧
    (rule q r .isNotEmpty = Ruling.pass ↔ rule q r .isArray = Ruling.pass)
  oneKind : ¬(rule q r .isObject = Ruling.pass ∧ rule q r .isArray = Ruling.pass)

theorem emptinessFits (compiled : compile e = .ok q) (body : ReadsAs JsonPathQuery r document) :
    EmptinessFits e q r document := by
  have sameScan : q.definite = isDefinite e.text :=
    congrArg JsonPathQuery.definite (JsonPath.compile_eq_ok_iff.mp compiled).2
  obtain ⟨found, selected, looks, found?, selects⟩ := exists_looks compiled body
  have finds := Question.find_eq_ok_iff.mp found?
  have filled_iff : (∃ j, selected = some j ∧ j.isEmpty = false) ↔
      ¬∀ j, selected = some j → j.isEmpty = true := by
    simp
  constructor
  · rw [isEmpty_eq_pass_iff selects, ne_eq, isNotEmpty_eq_pass_iff selects, filled_iff, not_not]
  · rw [isNotEmpty_eq_pass_iff selects, Question.present_eq_pass_iff_of_finds finds]
    exact looks.present_of_filled
  · rw [isEmpty_eq_pass_iff selects, Question.absent_eq_pass_iff_of_finds finds]
    intro absent
    by_contra filled
    rw [looks.present_of_filled (filled_iff.mpr filled)] at absent
    cases absent
  · rw [isEmpty_eq_pass_iff selects, Question.present_eq_pass_iff_of_finds finds, ← sameScan]
    exact looks.present_and_empty_iff
  · rw [isNotEmpty_eq_pass_iff selects, isArray_eq_pass_iff selects,
      Question.present_eq_pass_iff_of_finds finds, ← sameScan]
    exact looks.present_iff_filled
  · rw [isObject_eq_pass_iff selects, isArray_eq_pass_iff selects]
    rintro ⟨⟨j, rfl, object⟩, ⟨k, same, array⟩⟩
    cases same
    cases j <;> simp [Json.isObject, Json.isArray] at object array

/-- Where the natural evaluation of a path succeeds, emptiness fits existence; where it fails, all
    questions about the value and about its existence fail with the same failure. -/
theorem emptiness_fits_existence (compiled : compile e = .ok q) (r : Response) :
    (∀ found, Question.find q r (Engine.naturalMode q) = .ok found →
      ∃ document : Json, ReadsAs JsonPathQuery r document ∧ EmptinessFits e q r document) ∧
    ∀ f, Question.find q r (Engine.naturalMode q) = .error f →
      Question.rule q r .present = .error f ∧ Question.rule q r .absent = .error f ∧
      ∀ question, rule q r question = .error f := by
  constructor
  · intro found finds
    obtain ⟨document, body⟩ := exists_readsAs finds
    exact ⟨document, body, emptinessFits compiled body⟩
  · intro f failed
    obtain ⟨present, absent⟩ := Question.existence_of_fault (Question.find_eq_error_iff.mp failed)
    exact ⟨present, absent, rule_of_fault failed⟩

/-- An empty object exists and is empty. -/
theorem emptiness_fits_existence_empty_object :
    ∃ (q : JsonPathQuery) (r : Response), compile ⟨"$.a", []⟩ = .ok q ∧
      Question.find q r (Engine.naturalMode q) = .ok (.node (.object [])) ∧
      Question.rule q r .present = Ruling.pass ∧ rule q r .isEmpty = Ruling.pass ∧
      rule q r .isNotEmpty ≠ Ruling.pass := by
  let q : JsonPathQuery := ⟨⟨"$.a", []⟩, [.child [.name "a"]], true⟩
  let r : Response := { body := Text.Utf8.encode "\x7b\"a\":\x7b\x7d\x7d" }
  have compiled : compile ⟨"$.a", []⟩ = .ok q := by cbv
  have finds : Question.find q r (Engine.naturalMode q) = .ok (.node (.object [])) := by cbv
  obtain ⟨succeeds, -⟩ := emptiness_fits_existence compiled r
  obtain ⟨document, ⟨content, decoded, read⟩, fits⟩ := succeeds _ finds
  have known : ContentMatcher.contentOf r = .ok "\x7b\"a\":\x7b\x7d\x7d" := by cbv
  cases known.symm.trans decoded
  have parsed : Engine.read (Q := JsonPathQuery) "\x7b\"a\":\x7b\x7d\x7d" =
      .ok (.object [("a", .object [])]) := by cbv
  cases parsed.symm.trans read
  have one : JsonPath.select q.path (.object [("a", .object [])]) = [.object []] := by cbv
  obtain ⟨present, empty⟩ := fits.presentAndEmpty.mpr ⟨by decide +kernel, .inr one⟩
  exact ⟨q, r, compiled, finds, present, empty, fits.opposite.mp empty⟩

end Exchange.JsonQuestion
