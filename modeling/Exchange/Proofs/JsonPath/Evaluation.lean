import Exchange.JsonPath.Query
import Exchange.Proofs.Failure

/-! # What a JSON path query finds, mode by mode

The modes that ask for nodes never fail. One keeps every match, the other the first one, where a
null counts as absent; on a list of at most one match they differ in that null alone. The other modes
coerce a single match and refuse several.
-/

namespace Exchange.JsonPath

open Query (Found Mode)

variable (q : JsonPathQuery) (document : Json)

/-- The first of some matches, where null counts as absent. -/
def firstFound : List Json → Found Json
  | [] => .absent
  | j :: _ => if j.isNull then .absent else .node j

theorem evaluate_nodeSet :
    evaluate q document .nodeSet = .ok (.nodes (select q.path document)) := rfl

theorem evaluate_singleNode :
    evaluate q document .singleNode = .ok (firstFound (select q.path document)) := by
  simp only [evaluate, reduceCtorEq, ↓reduceIte]
  cases select q.path document with
  | nil => rfl
  | cons j others =>
      have kept : coerceSingle q.expression j .singleNode = .ok (firstFound (j :: others)) := by
        rw [firstFound, coerceSingle]
        split <;> rfl
      cases others with
      | nil => exact kept
      | cons _ _ => exact kept

section Single

variable {q : JsonPathQuery} {document : Json} {mode : Mode}

theorem evaluate_of_none (single : mode ≠ .nodeSet) (none : select q.path document = []) :
    evaluate q document mode = .ok .absent := by
  simp only [evaluate, if_neg single, none]

theorem evaluate_of_one {j : Json} (single : mode ≠ .nodeSet)
    (one : select q.path document = [j]) :
    evaluate q document mode = coerceSingle q.expression j mode := by
  simp only [evaluate, if_neg single, one]

theorem evaluate_of_many (single : mode ≠ .nodeSet) (scalar : mode ≠ .singleNode)
    (many : 2 ≤ (select q.path document).length) : evaluate q document mode =
      .error (.coercion q.expression.text (matchesInWords (select q.path document)) mode) := by
  match matched : select q.path document with
  | [] | [_] => simp [matched] at many
  | j :: k :: others => simp only [evaluate, if_neg single, if_neg scalar, matched]

/-- All an evaluation can do: it gives every match, finds nothing, coerces a match that is not null,
    or refuses several matches. -/
theorem evaluate_cases (q : JsonPathQuery) (document : Json) (mode : Mode) :
    (mode = .nodeSet ∧
      evaluate q document mode = .ok (.nodes (select q.path document))) ∨
    (mode ≠ .nodeSet ∧ (evaluate q document mode = .ok .absent ∨
      (∃ j, j.isNull = false ∧ evaluate q document mode = coerce q.expression j mode) ∨
      evaluate q document mode =
        .error (.coercion q.expression.text (matchesInWords (select q.path document)) mode))) := by
  by_cases single : mode = .nodeSet
  · exact .inl ⟨single, by rw [single, evaluate_nodeSet]⟩
  · refine .inr ⟨single, ?_⟩
    have kept (j : Json) : coerceSingle q.expression j mode = .ok .absent ∨
        ∃ k, k.isNull = false ∧ coerceSingle q.expression j mode = coerce q.expression k mode := by
      cases null : j.isNull with
      | true => exact .inl (by rw [coerceSingle, null, if_pos rfl])
      | false => exact .inr ⟨j, null, by rw [coerceSingle, null, if_neg Bool.false_ne_true]⟩
    match matched : select q.path document with
    | [] => exact .inl (evaluate_of_none single matched)
    | [j] =>
        rw [evaluate_of_one single matched]
        exact (kept j).imp_right .inl
    | j :: k :: others =>
        by_cases scalar : mode = .singleNode
        · have first : evaluate q document mode = coerceSingle q.expression j mode := by
            simp only [evaluate, if_neg single, if_pos scalar, matched]
          rw [first]
          exact (kept j).imp_right .inl
        · refine .inr (.inr ?_)
          rw [← matched]
          exact evaluate_of_many single scalar (by simp [matched])

theorem failsAs_coerce {e : Query.Expression} {j : Json} :
    FailsAs [.coercion] (coerce e j mode) := by
  cases mode with
  | singleNode | nodeSet | string => exact .ok _
  | number =>
      simp only [coerce]
      split
      · exact .ok _
      · exact .error (.head _)
  | boolean =>
      simp only [coerce]
      split
      · exact .ok _
      · exact .error (.head _)

theorem failsAs_evaluate : FailsAs [.coercion] (evaluate q document mode) := by
  rcases evaluate_cases q document mode with
    ⟨-, all⟩ | ⟨-, none | ⟨j, -, one⟩ | many⟩
  · rw [all]
    exact .ok _
  · rw [none]
    exact .ok _
  · rw [one]
    exact failsAs_coerce
  · rw [many]
    exact .error (.head _)

end Single

/-- Of at most one match nothing is lost but a null. -/
theorem nodeList_firstFound {matched : List Json} (few : matched.length ≤ 1) :
    (firstFound matched).nodeList = matched.filter fun j => !j.isNull := by
  match matched, few with
  | [], _ => rfl
  | [j], _ =>
      rw [firstFound]
      split
      · rename_i null
        simp [null, Found.nodeList]
      · rename_i there
        simp [there, Found.nodeList]

theorem failsAs_readDocument (content : String) : FailsAs [.content] (readDocument content) := by
  unfold readDocument
  split
  · exact .ok _
  · exact .error (.head _)

theorem compile_eq_ok_iff {e : Query.Expression} {q : JsonPathQuery} :
    compile e = .ok q ↔ read? e.text = some q.path ∧ q = ⟨e, q.path, isDefinite e.text⟩ := by
  unfold compile
  constructor
  · intro compiled
    split at compiled
    · rename_i path read
      cases compiled
      exact ⟨read, rfl⟩
    · cases compiled
  · rintro ⟨read, built⟩
    rw [read, built]

end Exchange.JsonPath
