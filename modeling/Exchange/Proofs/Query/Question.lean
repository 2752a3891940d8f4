import Exchange.Matcher.Query
import Exchange.Proofs.Failure

/-! # What it takes to answer a question

A question is answered in three steps: the body is decoded, the content is read as a document, and
the query is evaluated in the mode of the question. `Fault` and `Finds` say how that ends, and each
question passes exactly if something was found that it accepts.
-/

namespace Exchange.Question

open Query (Engine Mode Found)

variable {Q D N : Type} [Engine Q D N] {q : Q} {r : Response} {mode : Mode}

/-- The steps that lead to a value. -/
inductive Finds (q : Q) (r : Response) (mode : Mode) (found : Found N) : Prop where
  | evaluated {content : String} {document : D} (decoded : ContentMatcher.contentOf r = .ok content)
    (read : Engine.read (Q := Q) content = .ok document)
    (value : Engine.evaluate q document mode = .ok found)

/-- The steps that can fail, each with its own failure. -/
inductive Fault (q : Q) (r : Response) (mode : Mode) (f : Failure) : Prop where
  | decoding (undecodable : ContentMatcher.contentOf r = .error f)
  | reading {content : String} (decoded : ContentMatcher.contentOf r = .ok content)
    (malformed : Engine.read (Q := Q) content = .error f)
  | evaluation {content : String} {document : D}
    (decoded : ContentMatcher.contentOf r = .ok content)
    (read : Engine.read (Q := Q) content = .ok document)
    (failed : Engine.evaluate q document mode = .error f)

theorem find_eq_ok_iff {found : Found N} : find q r mode = .ok found ↔ Finds q r mode found := by
  simp only [find, bind_eq_ok_iff]
  constructor
  · rintro ⟨content, decoded, document, read, value⟩
    exact .evaluated decoded read value
  · rintro ⟨decoded, read, value⟩
    exact ⟨_, decoded, _, read, value⟩

theorem find_eq_error_iff {f : Failure} : find q r mode = .error f ↔ Fault q r mode f := by
  simp only [find, bind_eq_error_iff]
  constructor
  · rintro (undecodable | ⟨content, decoded, malformed | ⟨document, read, failed⟩⟩)
    · exact .decoding undecodable
    · exact .reading decoded malformed
    · exact .evaluation decoded read failed
  · rintro (undecodable | ⟨decoded, malformed⟩ | ⟨decoded, read, failed⟩)
    · exact .inl undecodable
    · exact .inr ⟨_, decoded, .inl malformed⟩
    · exact .inr ⟨_, decoded, .inr ⟨_, read, failed⟩⟩

theorem exists_finds (faultless : ∀ f, ¬Fault q r mode f) : ∃ found, Finds q r mode found := by
  cases result : find q r mode with
  | error f => exact absurd (find_eq_error_iff.mp result) (faultless f)
  | ok found => exact ⟨found, find_eq_ok_iff.mp result⟩

/-- The body of a response reads as a document. -/
def ReadsAs (Q : Type) {D N : Type} [Engine Q D N] (r : Response) (document : D) : Prop :=
  ∃ content, ContentMatcher.contentOf r = .ok content ∧
    Engine.read (Q := Q) content = .ok document

theorem find_of_readsAs {document : D} (body : ReadsAs Q r document) (q : Q) (mode : Mode) :
    find q r mode = Engine.evaluate q document mode := by
  obtain ⟨content, decoded, read⟩ := body
  simp only [find, decoded, read, bind, Except.bind]

/-- The mode only matters once the body has been read as a document. -/
theorem find_cases (q : Q) (r : Response) :
    (∃ f, ∀ mode, find q r mode = .error f) ∨
    ∃ document, ∀ mode, find q r mode = Engine.evaluate q document mode := by
  cases decoded : ContentMatcher.contentOf r with
  | error f => exact .inl ⟨f, fun _ => find_eq_error_iff.mpr (.decoding decoded)⟩
  | ok content =>
      cases read : Engine.read (Q := Q) content with
      | error f => exact .inl ⟨f, fun _ => find_eq_error_iff.mpr (.reading decoded read)⟩
      | ok document => exact .inr ⟨document, find_of_readsAs ⟨content, decoded, read⟩ q⟩

theorem failsAs_contentOf (r : Response) : FailsAs [.content] (ContentMatcher.contentOf r) :=
  .mapError fun _ => .head _

variable {kinds : List Failure.Kind}

theorem failsAs_find (content : .content ∈ kinds)
    (read : ∀ content, FailsAs kinds (Engine.read (Q := Q) content))
    (evaluate : ∀ document, FailsAs kinds (Engine.evaluate q document mode)) :
    FailsAs kinds (find q r mode) := by
  have decoding : FailsAs kinds (ContentMatcher.contentOf r) :=
    (failsAs_contentOf r).of_single content
  exact decoding.bind fun content _ => (read content).bind fun document _ => evaluate document

/-- All that looking for a value can come to where it has to be there. -/
theorem findPresent_cases (q : Q) (r : Response) (mode : Mode) :
    (∃ f, find q r mode = .error f ∧ findPresent q r mode = .error f) ∨
    (find q r mode = .ok .absent ∧
      findPresent q r mode = Ruling.fail ("No value at " ++ label q)) ∨
    ∃ found, find q r mode = .ok found ∧ found ≠ .absent ∧ findPresent q r mode = .ok found := by
  unfold findPresent
  cases find q r mode with
  | error f => exact .inl ⟨f, rfl, rfl⟩
  | ok found =>
      cases found with
      | absent =>
          refine .inr (.inl ⟨rfl, ?_⟩)
          rw [label, ← String.append_assoc, ← String.append_assoc]
          rfl
      | node | nodes | string | number | boolean => exact .inr (.inr ⟨_, rfl, nofun, rfl⟩)

theorem rule_of_find_error {f : Failure} (failed : ∀ mode, find q r mode = .error f)
    (question : Question N) : rule q r question = .error f := by
  have needed (mode : Mode) : findPresent q r mode = .error f := by
    rw [findPresent, failed]
    rfl
  cases question with
  | node | present | absent | count | countSatisfies =>
      rw [rule, failed]
      rfl
  | text | textSatisfies | number | numberSatisfies | boolean =>
      rw [rule, needed]
      rfl

theorem present_eq_pass_iff : rule q r .present = Ruling.pass ↔
    ∃ found, find q r (Engine.naturalMode q) = .ok found ∧ found.present = true := by
  simp only [rule, Ruling.pass, bind_eq_ok_iff]
  exact exists_congr fun found => and_congr_right fun _ => Ruling.require_eq_pass_iff

theorem absent_eq_pass_iff : rule q r .absent = Ruling.pass ↔
    ∃ found, find q r (Engine.naturalMode q) = .ok found ∧ found.present = false := by
  simp only [rule, Ruling.pass, bind_eq_ok_iff]
  refine exists_congr fun found => and_congr_right fun _ => ?_
  rw [← Bool.not_eq_true']
  exact Ruling.require_eq_pass_iff

theorem node_eq_pass_iff {p : Predicate (Option N)} : rule q r (.node p) = Ruling.pass ↔
    ∃ found, find q r .singleNode = .ok found ∧ p.accepts found.node? = true := by
  simp only [rule, Ruling.pass, bind_eq_ok_iff]
  exact exists_congr fun found => and_congr_right fun _ => Ruling.satisfies_eq_pass_iff

theorem count_eq_pass_iff {n : Nat} : rule q r (.count n) = Ruling.pass ↔
    ∃ found, find q r .nodeSet = .ok found ∧ found.nodeList.length = n := by
  simp only [rule, Ruling.pass, bind_eq_ok_iff]
  exact exists_congr fun found => and_congr_right fun _ => Ruling.equal_eq_pass_iff

end Exchange.Question
