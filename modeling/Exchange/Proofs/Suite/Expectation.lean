import Exchange.Proofs.Matcher.Failures
import Exchange.Suite.Compile

/-! # What an expectation stands for

An expectation rules on outcomes by its matcher. The matcher that an expectation compiles to has
a query that was compiled, so running it refuses no expression any more.
-/

namespace Exchange

namespace Expectation

variable {e : Expectation} {m : Matcher} {o : Outcome} {ruling : Ruling}

/-- The matcher of an expectation rules on an outcome. -/
def Rules (e : Expectation) (o : Outcome) (ruling : Ruling) : Prop :=
  ∃ m, e.compile = .ok m ∧ m.verify o = ruling

/-- Compile an expectation and run its matcher. -/
def verify (o : Outcome) (e : Expectation) : Ruling := e.compile >>= Matcher.verify o

theorem verify_of_compile (compiled : e.compile = .ok m) : e.verify o = m.verify o := by
  rw [verify, compiled]
  rfl

theorem verify_eq_iff (compiles : ∃ m, e.compile = .ok m) :
    e.verify o = ruling ↔ e.Rules o ruling := by
  obtain ⟨m, compiled⟩ := compiles
  rw [verify_of_compile compiled]
  constructor
  · intro ruled
    exact ⟨m, compiled, ruled⟩
  · rintro ⟨n, other, ruled⟩
    cases compiled.symm.trans other
    exact ruled

theorem built_of_compile (compiled : e.compile = .ok m) : m.Built := by
  -- Only an XPath matcher builds its expression anew when it is run.
  cases e with
  | xpath expression namespaces check =>
      obtain ⟨q, queried, compiled⟩ := bind_eq_ok_iff.mp compiled
      obtain ⟨question, -, rfl⟩ := map_eq_ok_iff.mp compiled
      exact ⟨_, queried⟩
  | jsonPath expression check =>
      obtain ⟨q, -, compiled⟩ := bind_eq_ok_iff.mp compiled
      cases check with
      | value expected =>
          cases compiled
          trivial
      | present _ | nodeCount _ | text _ | number _ | boolean _ =>
          obtain ⟨question, -, rfl⟩ := map_eq_ok_iff.mp compiled
          trivial
  | statusReason _ | content _ | contentType _ | header _ _ | cookie _ _ | viewName _ =>
      obtain ⟨_, -, rfl⟩ := map_eq_ok_iff.mp compiled
      trivial
  | handlerMethod declaringType _ =>
      cases declaringType <;>
        · cases compiled
          trivial
  | status _ | encoding _ | redirectedUrl _ | forwardedUrl _ | modelAttributeExists _
  | flashAttributeExists _ | handlerType _ =>
      cases compiled
      trivial

end Expectation

theorem mapM_eq_ok_iff {ε α β : Type} {step : α → Except ε β} {as : List α} {bs : List β} :
    as.mapM step = .ok bs ↔ List.Forall₂ (fun a b => step a = .ok b) as bs := by
  induction as generalizing bs with
  | nil => simp [pure, Except.pure, eq_comm]
  | cons a as ih =>
      simp only [List.mapM_cons, bind_eq_ok_iff, List.forall₂_cons_left_iff, ih]
      constructor
      · rintro ⟨b, first, rest, others, equal⟩
        cases equal
        exact ⟨b, rest, first, others, rfl⟩
      · rintro ⟨b, rest, first, others, rfl⟩
        exact ⟨b, first, rest, others, rfl⟩

namespace Suite

variable {s : Suite} {matchers : List Matcher}

theorem compile_eq_ok_iff : s.compile = .ok matchers ↔
    List.Forall₂ (fun e m => e.compile = .ok m) s.expectations matchers := mapM_eq_ok_iff

theorem exists_compile (compiles : ∀ e ∈ s.expectations, ∃ m, e.compile = .ok m) :
    ∃ matchers, s.compile = .ok matchers := by
  simp only [compile_eq_ok_iff]
  generalize s.expectations = es at compiles
  induction es with
  | nil => exact ⟨[], .nil⟩
  | cons e rest ih =>
      obtain ⟨⟨m, compiled⟩, others⟩ := List.forall_mem_cons.mp compiles
      obtain ⟨matchers, each⟩ := ih others
      exact ⟨m :: matchers, .cons compiled each⟩

theorem all_verify_of_compiled {es : List Expectation} (o : Outcome)
    (each : List.Forall₂ (fun e m => e.compile = .ok m) es matchers) :
    Ruling.all (Matcher.verify o) matchers = Ruling.all (Expectation.verify o) es := by
  induction each with
  | nil => rfl
  | cons compiled _ ih => rw [Ruling.all, Ruling.all, Expectation.verify_of_compile compiled, ih]

/-- Running the matchers of a suite that compiles is the same as compiling and running one
    expectation after the other. -/
theorem verify_eq_all (compiled : s.compile = .ok matchers) (o : Outcome) :
    s.verify o = Ruling.all (Expectation.verify o) s.expectations := by
  rw [verify, compiled]
  exact all_verify_of_compiled o (compile_eq_ok_iff.mp compiled)

end Suite

end Exchange
