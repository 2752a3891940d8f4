import Exchange.Proofs.Failure
import Exchange.XPath.Query

/-! # What an XPath query finds

An evaluation builds the expression, finds its value and asks the value for what the mode wants. A
query that was compiled has an expression that can be built, so that nothing is left to be refused
about the expression itself. The evaluation breaks off where the expression comes to a prefix
without a namespace, in every mode alike.
-/

namespace Exchange.XPath

open Query (Engine Found Mode)

variable {q : XPathQuery} {document : XmlDocument} {mode : Mode}

/-- The expression of a query can be built. -/
def Built (q : XPathQuery) : Prop := ∃ e, build q.expression.text = .ok e

theorem build_nil (text : String) : (Cache.build [] text).1 = build text := by
  rw [Cache.build, Table.find?_nil]
  dsimp only
  cases build text <;> rfl

theorem built_of_compile {e : Query.Expression} (compiled : compile e = .ok q) : Built q := by
  simp only [compile, compileIn] at compiled
  split at compiled
  · cases compiled
  · rw [build_nil] at compiled
    cases built : build e.text with
    | error fault =>
        rw [built] at compiled
        cases compiled
    | ok expression =>
        rw [built] at compiled
        cases compiled
        exact ⟨expression, built⟩

/-- An evaluation of the query comes to a prefix without a namespace. -/
def MeetsUnbound (q : XPathQuery) (document : XmlDocument) (p : String) : Prop :=
  ∃ e, build q.expression.text = .ok e ∧
    evaluate (environment q document) e = .error (.unboundPrefix p)

/-- All an evaluation can do: the expression is refused, or its evaluation breaks off, or it has no
    value, or its value is coerced. -/
theorem evaluate_cases (q : XPathQuery) (document : XmlDocument) :
    (∃ fault, build q.expression.text = .error fault ∧ ∀ mode, Engine.evaluate q document mode =
      .error (.compile .xpath q.expression.text fault)) ∨
    (∃ p, MeetsUnbound q document p ∧
      ∀ mode, Engine.evaluate q document mode = .error (.aborted q.expression.text p)) ∨
    (∀ mode, Engine.evaluate q document mode = .error (.evaluation q.expression.text)) ∨
    ∃ value, ∀ mode, Engine.evaluate q document mode =
      coerce (environment q document).tree q.expression value mode := by
  simp only [Engine.evaluate, evaluateIn, build_nil]
  cases built : build q.expression.text with
  | error fault => exact .inl ⟨fault, rfl, fun _ => rfl⟩
  | ok e =>
      dsimp only
      cases came : evaluate (environment q document) e with
      | error fault =>
          cases fault with
          | unboundPrefix p => exact .inr (.inl ⟨p, ⟨e, built, came⟩, fun _ => rfl⟩)
          | unknownFunction | unknownVariable | argumentCount | notNodes =>
              exact .inr (.inr (.inl fun _ => rfl))
      | ok value => exact .inr (.inr (.inr ⟨value, fun _ => rfl⟩))

theorem evaluate_alike (q : XPathQuery) (document : XmlDocument) :
    (∃ f, ∀ mode, Engine.evaluate q document mode = .error f) ∨
    ∃ value, ∀ mode, Engine.evaluate q document mode =
      coerce (environment q document).tree q.expression value mode := by
  rcases evaluate_cases q document with ⟨_, -, unbuilt⟩ | ⟨_, -, broke⟩ | none | coerced
  · exact .inl ⟨_, unbuilt⟩
  · exact .inl ⟨_, broke⟩
  · exact .inl ⟨_, none⟩
  · exact .inr coerced

theorem failsAs_coerce {t : Tree} {e : Query.Expression} {value : Value} :
    FailsAs [.coercion] (coerce t e value mode) := by
  unfold coerce
  split
  · split
    · exact .ok _
    · exact .ok _
  · exact .ok _
  · exact .error (.head _)
  · exact .error (.head _)
  · exact .ok _
  · exact .ite (.error (.head _)) (.ok _)
  · exact .ok _
  · split
    · exact .ok _
    · exact .error (.head _)

theorem evaluate_eq_aborted_iff {text p : String} :
    Engine.evaluate q document mode = .error (.aborted text p) ↔
      text = q.expression.text ∧ MeetsUnbound q document p := by
  constructor
  · intro aborted
    rcases evaluate_cases q document with
      ⟨fault, -, unbuilt⟩ | ⟨p', meets, broke⟩ | none | ⟨value, coerced⟩
    · cases (unbuilt mode).symm.trans aborted
    · cases (broke mode).symm.trans aborted
      exact ⟨rfl, meets⟩
    · cases (none mode).symm.trans aborted
    · have known := failsAs_coerce _ ((coerced mode).symm.trans aborted)
      simp [Failure.kind] at known
  · rintro ⟨rfl, e, built, met⟩
    simp only [Engine.evaluate, evaluateIn, build_nil, built, met, failure]

theorem failsAs_evaluate :
    FailsAs [.coercion, .evaluation, .compile, .aborted] (Engine.evaluate q document mode) := by
  rcases evaluate_cases q document with
    ⟨fault, -, unbuilt⟩ | ⟨p, -, broke⟩ | none | ⟨value, coerced⟩
  · rw [unbuilt]
    exact .error (by simp [Failure.kind])
  · rw [broke]
    exact .error (by simp [Failure.kind])
  · rw [none]
    exact .error (by simp [Failure.kind])
  · rw [coerced]
    exact failsAs_coerce.of_single (.head _)

theorem failsAs_evaluate_of_built (built : Built q) :
    FailsAs [.coercion, .evaluation, .aborted] (Engine.evaluate q document mode) := by
  rcases evaluate_cases q document with
    ⟨fault, unbuilt, -⟩ | ⟨p, -, broke⟩ | none | ⟨value, coerced⟩
  · obtain ⟨e, built⟩ := built
    cases built.symm.trans unbuilt
  · rw [broke]
    exact .error (by simp [Failure.kind])
  · rw [none]
    exact .error (by simp [Failure.kind])
  · rw [coerced]
    exact failsAs_coerce.of_single (.head _)

theorem failsAs_readDocument (content : String) : FailsAs [.content] (readDocument content) := by
  unfold readDocument
  split
  · exact .ok _
  · exact .error (.head _)

end Exchange.XPath
