import Exchange.Proofs.Ruling

/-! # How steps fail

What a step can fail with is said by the kinds of the failures that it may end in. Steps that follow
each other fail as each of them does, and the primitive rulings fail by assertions alone, so the
kinds of the failures of a matcher are read off the steps it is made of.
-/

namespace Exchange

/-- The kinds of failures. -/
inductive Failure.Kind where
  | assertion
  | compile
  | coercion
  | evaluation
  | content
  | mediaType
  | output
  | aborted
  deriving Repr, DecidableEq

/-- The kind of a failure. -/
def Failure.kind : Failure → Failure.Kind
  | assertion _ => .assertion
  | compile _ _ _ => .compile
  | coercion _ _ _ => .coercion
  | evaluation _ => .evaluation
  | content _ => .content
  | mediaType _ _ => .mediaType
  | output _ => .output
  | aborted _ _ => .aborted

/-- If a step fails, its failure is of one of some kinds. -/
def FailsAs {α : Type} (kinds : List Failure.Kind) (step : Except Failure α) : Prop :=
  ∀ f, step = .error f → f.kind ∈ kinds

namespace FailsAs

variable {α β : Type} {kinds more : List Failure.Kind} {step : Except Failure α}

theorem ok (a : α) : FailsAs kinds (.ok a) := by
  intro f failed
  cases failed

theorem error {f : Failure} (known : f.kind ∈ kinds) :
    FailsAs kinds (.error f : Except Failure α) := by
  intro g failed
  cases failed
  exact known

theorem mono (steps : FailsAs kinds step) (sub : kinds ⊆ more) : FailsAs more step :=
  fun f failed => sub (steps f failed)

theorem of_single {kind : Failure.Kind} (steps : FailsAs [kind] step) (known : kind ∈ kinds) :
    FailsAs kinds step := by
  intro f failed
  rw [List.mem_singleton.mp (steps f failed)]
  exact known

theorem bind {next : α → Except Failure β} (first : FailsAs kinds step)
    (rest : ∀ a, step = .ok a → FailsAs kinds (next a)) : FailsAs kinds (step >>= next) := by
  intro f failed
  rcases bind_eq_error_iff.mp failed with early | ⟨a, passed, late⟩
  · exact first f early
  · exact rest a passed f late

theorem map {g : α → β} (first : FailsAs kinds step) : FailsAs kinds (step.map g) := by
  cases step with
  | error f => exact .error (first f rfl)
  | ok a => exact .ok (g a)

theorem mapError {ε : Type} {step : Except ε α} {g : ε → Failure}
    (known : ∀ e, (g e).kind ∈ kinds) : FailsAs kinds (step.mapError g) := by
  cases step with
  | error e => exact .error (known e)
  | ok a => exact .ok a

theorem ite {condition : Prop} [Decidable condition] {other : Except Failure α}
    (yes : FailsAs kinds step) (no : FailsAs kinds other) :
    FailsAs kinds (if condition then step else other) := by
  split
  · exact yes
  · exact no

end FailsAs

/-- A step that fails at most by an assertion. -/
abbrev Asserts {α : Type} (step : Except Failure α) : Prop := FailsAs [.assertion] step

theorem kind_of_asserts {α : Type} {step : Except Failure α} {f : Failure} (steps : Asserts step)
    (failed : step = .error f) : f.kind = .assertion := List.mem_singleton.mp (steps f failed)

namespace Ruling

variable {α : Type} {label text : String}

theorem asserts_pass : Asserts pass := .ok ()

theorem asserts_fail : Asserts (fail text : Except Failure α) := .error (.head _)

theorem asserts_mismatch {expected actual : String} :
    Asserts (mismatch label expected actual : Except Failure α) := .error (.head _)

theorem asserts_require {condition : Bool} : Asserts (require condition text) :=
  .ite asserts_pass asserts_fail

theorem asserts_needed {a : Option α} : Asserts (needed label a) := by
  cases a with
  | none => exact .error (.head _)
  | some a => exact .ok a

theorem asserts_equal [BEq α] [Shown α] {expected actual : α} :
    Asserts (equal label expected actual) := .ite asserts_pass asserts_mismatch

theorem asserts_equalOptional [BEq α] [Shown α] {expected : α} {actual : Option α} :
    Asserts (equalOptional label expected actual) := by
  cases actual with
  | none => exact asserts_mismatch
  | some a => exact asserts_equal

theorem asserts_equalJson {expected actual : Json} : Asserts (equalJson label expected actual) :=
  .ite asserts_pass asserts_mismatch

theorem asserts_satisfies [Shown α] {p : Predicate α} {actual : α} :
    Asserts (satisfies label p actual) := .ite asserts_pass asserts_mismatch

theorem asserts_passes {check : TextPredicate} {actual : Option String} :
    Asserts (passes label check actual) := .ite asserts_pass asserts_mismatch

theorem asserts_all {rule : α → Ruling} (each : ∀ a, Asserts (rule a)) (items : List α) :
    Asserts (all rule items) := by
  induction items with
  | nil => exact asserts_pass
  | cons a rest ih =>
      rw [all]
      split
      · exact ih
      · rename_i f failed
        exact .error (each a f failed)

end Ruling

end Exchange
