import Mathlib
import Exchange.Proofs.JsonPath.Evaluation
import Exchange.Proofs.Query.Question
import Exchange.Proofs.XPath.Evaluation

/-! # What the modes find

Every mode has values of its own: nodes for the modes that ask for nodes, a text, a number or a
truth value for the others, and nothing at all where a single value is asked for. So a question that
asks for a text compares a text that was found, and none of the questions ends where a value of
another kind would lead.
-/

namespace Exchange

open Query (Engine Found Mode)

/-- The values that a mode may find. -/
inductive Query.Mode.Admits {N : Type} : Mode → Found N → Prop where
  | node (n : N) : Admits .singleNode (.node n)
  | nodes (ns : List N) : Admits .nodeSet (.nodes ns)
  | string (s : String) : Admits .string (.string s)
  | number {x : Float} (number : x.isNaN = false) : Admits .number (.number x)
  | boolean (b : Bool) : Admits .boolean (.boolean b)
  | absent {mode : Mode} (single : mode ≠ .nodeSet) : Admits mode .absent

namespace JsonPath

variable {q : JsonPathQuery} {document j : Json} {mode : Mode} {found : Found Json}

theorem isNaN_of_numberOf? {x : Float} (number : numberOf? j = some x) : x.isNaN = false := by
  simpa using (Option.filter_eq_some_iff.mp number).2

theorem admits_of_coerce {e : Query.Expression} (single : mode ≠ .nodeSet)
    (coerced : coerce e j mode = .ok found) : mode.Admits found := by
  cases mode with
  | singleNode =>
      cases coerced
      exact .node j
  | nodeSet => exact absurd rfl single
  | string =>
      cases coerced
      exact .string j.plainText
  | number =>
      simp only [coerce] at coerced
      split at coerced
      · rename_i x number
        cases coerced
        exact .number (isNaN_of_numberOf? number)
      · cases coerced
  | boolean =>
      simp only [coerce] at coerced
      split at coerced
      · rename_i b _
        cases coerced
        exact .boolean b
      · cases coerced

theorem admits_of_evaluate (evaluated : evaluate q document mode = .ok found) :
    mode.Admits found := by
  rcases evaluate_cases q document mode with
    ⟨set, all⟩ | ⟨single, none | ⟨j, -, one⟩ | many⟩
  · cases all.symm.trans evaluated
    exact set ▸ .nodes _
  · cases none.symm.trans evaluated
    exact .absent single
  · exact admits_of_coerce single (one.symm.trans evaluated)
  · cases many.symm.trans evaluated

/-- No coercion makes a node of a value that is not the node itself. -/
theorem eq_of_coerce_eq_node {e : Query.Expression} {k : Json}
    (coerced : coerce e j mode = .ok (.node k)) : j = k := by
  cases mode with
  | singleNode | nodeSet =>
      cases coerced
      rfl
  | string => cases coerced
  | number | boolean =>
      simp only [coerce] at coerced
      split at coerced
      · cases coerced
      · cases coerced

theorem ne_null_of_evaluate (evaluated : evaluate q document mode = .ok (.node j)) :
    j ≠ .null := by
  rcases evaluate_cases q document mode with
    ⟨-, all⟩ | ⟨-, none | ⟨k, there, one⟩ | many⟩
  · cases all.symm.trans evaluated
  · cases none.symm.trans evaluated
  · rintro rfl
    cases eq_of_coerce_eq_node (one.symm.trans evaluated)
    cases there
  · cases many.symm.trans evaluated

end JsonPath

namespace XPath

variable {q : XPathQuery} {document : XmlDocument} {mode : Mode} {found : Found XmlNode}

theorem admits_of_coerce {t : Tree} {e : Query.Expression} {value : Value}
    (coerced : coerce t e value mode = .ok found) : mode.Admits found := by
  unfold coerce at coerced
  split at coerced
  · split at coerced
    · cases coerced
      exact .node _
    · cases coerced
      exact .absent (by decide)
  · cases coerced
    exact .nodes _
  · cases coerced
  · cases coerced
  · cases coerced
    exact .string _
  · dsimp only at coerced
    split at coerced
    · cases coerced
    · rename_i number
      cases coerced
      exact .number (Bool.eq_false_iff.mpr number)
  · cases coerced
    exact .boolean _
  · split at coerced
    · cases coerced
      exact .boolean _
    · cases coerced

theorem admits_of_evaluate (evaluated : Engine.evaluate q document mode = .ok found) :
    mode.Admits found := by
  rcases evaluate_cases q document with
    ⟨_, -, unbuilt⟩ | ⟨_, -, broke⟩ | none | ⟨value, coerced⟩
  · cases (unbuilt mode).symm.trans evaluated
  · cases (broke mode).symm.trans evaluated
  · cases (none mode).symm.trans evaluated
  · exact admits_of_coerce ((coerced mode).symm.trans evaluated)

end XPath

namespace Question

variable {Q D N : Type} [Engine Q D N]

/-- What an engine keeps to: evaluations find what their modes admit, and looking for a value never
    fails by an assertion. -/
structure Disciplined (q : Q) : Prop where
  admits : ∀ (document : D) (mode : Mode) (found : Found N),
    Engine.evaluate q document mode = .ok found → mode.Admits found
  fails : ∀ (r : Response) (mode : Mode),
    FailsAs [.content, .coercion, .evaluation, .compile, .aborted] (find q r mode)

variable {q : Q} {r : Response} {mode : Mode} {found : Found N}

theorem Disciplined.findPresent (kept : Disciplined q)
    (present : Question.findPresent q r mode = .ok found) :
    Question.find q r mode = .ok found ∧ mode.Admits found ∧ found ≠ .absent := by
  rcases findPresent_cases q r mode with
    ⟨f, -, failed⟩ | ⟨-, missing⟩ | ⟨value, sound, there, same⟩
  · cases failed.symm.trans present
  · cases missing.symm.trans present
  · cases same.symm.trans present
    obtain ⟨-, -, evaluated⟩ := find_eq_ok_iff.mp sound
    exact ⟨sound, kept.admits _ mode found evaluated, there⟩

/-- The only assertion that looking for a value ends in is that there is none. -/
theorem Disciplined.findPresent_ne_fail (kept : Disciplined q) {text : String}
    (other : "No value at " ++ label q ≠ text) :
    Question.findPresent q r mode ≠ Ruling.fail text := by
  intro failed
  rcases findPresent_cases q r mode with ⟨f, early, same⟩ | ⟨-, missing⟩ | ⟨found, -, -, same⟩
  · cases same.symm.trans failed
    have known := kept.fails r mode _ early
    simp [Failure.kind] at known
  · cases missing.symm.trans failed
    exact other rfl
  · cases same.symm.trans failed

/-- No question about a coerced value ends in a fallback: texts are compared as they are found, or
    not at all, and no number and no truth value is missing from what was found. -/
structure NoFallback (q : Q) (r : Response) : Prop where
  text : (∃ f, Question.findPresent q r .string = .error f ∧
      (∀ s, rule q r (.text s) = .error f) ∧ ∀ p, rule q r (.textSatisfies p) = .error f) ∨
    ∃ actual, Question.find q r .string = .ok (.string actual) ∧
      (∀ s, rule q r (.text s) = Ruling.equal (label q) s actual) ∧
      ∀ p, rule q r (.textSatisfies p) = Ruling.satisfies (label q) p actual
  number : ∀ x, rule q r (.number x) ≠ Ruling.fail ("No number at " ++ label q)
  numberSatisfies : ∀ p, rule q r (.numberSatisfies p) ≠ Ruling.fail ("No number at " ++ label q)
  boolean : ∀ b, rule q r (.boolean b) ≠ Ruling.fail ("No boolean at " ++ label q)

theorem Disciplined.rule_ne_fail (kept : Disciplined q) {question : Question N} {text : String}
    {compare : Found N → Ruling}
    (asked : rule q r question = Question.findPresent q r mode >>= compare)
    (compared : ∀ found, mode.Admits found → found ≠ .absent → compare found ≠ Ruling.fail text)
    (other : "No value at " ++ label q ≠ text) : rule q r question ≠ Ruling.fail text := by
  rw [asked]
  intro failed
  rcases bind_eq_error_iff.mp failed with early | ⟨found, present, late⟩
  · exact kept.findPresent_ne_fail other early
  · obtain ⟨-, admitted, there⟩ := kept.findPresent present
    exact compared found admitted there late

theorem Disciplined.noFallback (kept : Disciplined q) (r : Response) : NoFallback q r where
  text := by
    cases looked : Question.findPresent q r .string with
    | error f =>
        refine .inl ⟨f, rfl, fun s => ?_, fun p => ?_⟩
        · rw [rule, looked]
          rfl
        · rw [rule, looked]
          rfl
    | ok found =>
        obtain ⟨sound, admitted, there⟩ := kept.findPresent looked
        cases admitted with
        | absent => exact absurd rfl there
        | string actual =>
            refine .inr ⟨actual, sound, fun s => ?_, fun p => ?_⟩
            · rw [rule, looked]
              rfl
            · rw [rule, looked]
              rfl
  number x := by
    refine kept.rule_ne_fail rfl (fun found admitted there => ?_) (by simp)
    cases admitted with
    | number => exact Ruling.equal_ne_fail
    | absent => exact absurd rfl there
  numberSatisfies p := by
    refine kept.rule_ne_fail rfl (fun found admitted there => ?_) (by simp)
    cases admitted with
    | number => exact Ruling.satisfies_ne_fail
    | absent => exact absurd rfl there
  boolean b := by
    refine kept.rule_ne_fail rfl (fun found admitted there => ?_) (by simp)
    cases admitted with
    | boolean => exact Ruling.equal_ne_fail
    | absent => exact absurd rfl there

end Question

open Question (Disciplined NoFallback find)

theorem JsonPath.failsAs_find (q : JsonPathQuery) (r : Response) (mode : Mode) :
    FailsAs [.content, .coercion] (find q r mode) :=
  Question.failsAs_find (.head _)
    (fun content => (failsAs_readDocument content).of_single (.head _))
    fun _ => failsAs_evaluate.of_single (.tail _ (.head _))

theorem JsonPath.disciplined (q : JsonPathQuery) : Disciplined q where
  admits _ _ _ := admits_of_evaluate
  fails r mode := (failsAs_find q r mode).mono (by simp)

theorem XPath.disciplined (q : XPathQuery) : Disciplined q where
  admits _ _ _ := admits_of_evaluate
  fails _ _ := Question.failsAs_find (.head _)
    (fun content => (failsAs_readDocument content).of_single (.head _))
    fun _ => failsAs_evaluate.mono (List.subset_cons_self _ _)

theorem JsonQuestion.failsAs_select (q : JsonPathQuery) (r : Response) (asked : Option Json) :
    FailsAs [.content, .coercion, .assertion] (select q r asked) := by
  refine ((JsonPath.failsAs_find q r _).mono (by simp)).bind fun found sound => ?_
  obtain ⟨-, -, evaluated⟩ := Question.find_eq_ok_iff.mp sound
  have natural : Engine.naturalMode q = .singleNode ∨ Engine.naturalMode q = .nodeSet := by
    cases definite : q.definite with
    | true => exact .inl (if_pos definite)
    | false => exact .inr (if_neg (ne_true_of_eq_false definite))
  have admitted := (JsonPath.disciplined q).admits _ _ _ evaluated
  cases found with
  | absent | node => exact .ok _
  | nodes ns =>
      simp only [ofMatches]
      split
      · refine .ite (.ok _) ?_
        unfold single
        split
        · exact .ok _
        · exact .ok _
        · exact Ruling.asserts_fail.of_single (by simp)
      · exact .ok _
  | string | number | boolean =>
      rcases natural with node | set
      · rw [node] at admitted
        cases admitted
      · rw [set] at admitted
        cases admitted

/-- What an evaluation finds is of its mode, and in JSON path a null is never found as a node and
    several matches are no text, no number and no truth value. So the questions about coerced values
    compare what was found, and every value that is found at a JSON path can be selected. -/
theorem evaluation_keeps_mode :
    (∀ (q : JsonPathQuery) (document : Json) (mode : Mode) (found : Found Json),
      Engine.evaluate q document mode = .ok found → mode.Admits found ∧ found ≠ .node .null) ∧
    (∀ (q : JsonPathQuery) (document : Json) (mode : Mode),
      mode ≠ .nodeSet → mode ≠ .singleNode → 2 ≤ (JsonPath.select q.path document).length →
      Engine.evaluate q document mode = .error (.coercion q.expression.text
        (JsonPath.matchesInWords (JsonPath.select q.path document)) mode)) ∧
    (∀ (q : XPathQuery) (document : XmlDocument) (mode : Mode) (found : Found XmlNode),
      Engine.evaluate q document mode = .ok found → mode.Admits found) ∧
    (∀ (q : JsonPathQuery) (r : Response), NoFallback q r ∧
      ∀ (asked : Option Json) (f : Failure),
        JsonQuestion.select q r asked = .error f → f.kind ≠ .evaluation) ∧
    ∀ (q : XPathQuery) (r : Response), NoFallback q r := by
  refine ⟨?_, ?_, ?_, ?_, ?_⟩
  · intro q document mode found evaluated
    refine ⟨JsonPath.admits_of_evaluate evaluated, ?_⟩
    rintro rfl
    exact JsonPath.ne_null_of_evaluate evaluated rfl
  · intro q document mode single scalar many
    exact JsonPath.evaluate_of_many single scalar many
  · intro q document mode found evaluated
    exact XPath.admits_of_evaluate evaluated
  · intro q r
    refine ⟨(JsonPath.disciplined q).noFallback r, ?_⟩
    intro asked f failed evaluation
    have known := JsonQuestion.failsAs_select q r asked f failed
    simp [evaluation] at known
  · intro q r
    exact (XPath.disciplined q).noFallback r

/-- One match that spells a truth value is found as one, and two matches are refused. -/
theorem evaluation_keeps_mode_boolean :
    ∃ q : JsonPathQuery, JsonPath.compile ⟨"$.a[*]", []⟩ = .ok q ∧
      Engine.evaluate q (Json.object [("a", .array [.string " true"])]) .boolean =
        .ok (.boolean true) ∧
      Mode.boolean.Admits (.boolean true : Found Json) ∧
      Engine.evaluate q (Json.object [("a", .array [.bool true, .null])]) .boolean =
        .error (.coercion "$.a[*]" "2 values" .boolean) := by
  let q : JsonPathQuery := ⟨⟨"$.a[*]", []⟩, [.child [.name "a"], .child [.wildcard]], false⟩
  let document : Json := .object [("a", .array [.bool true, .null])]
  have compiled : JsonPath.compile ⟨"$.a[*]", []⟩ = .ok q := by cbv
  have one : Engine.evaluate q (Json.object [("a", .array [.string " true"])]) .boolean =
      .ok (.boolean true) := by cbv
  have two : JsonPath.select q.path document = [.bool true, .null] := by cbv
  have refused := evaluation_keeps_mode.2.1 q document .boolean (by decide) (by decide)
    (by rw [two]; decide)
  rw [two] at refused
  exact ⟨q, compiled, one, (evaluation_keeps_mode.1 q _ _ _ one).1, refused⟩

end Exchange
