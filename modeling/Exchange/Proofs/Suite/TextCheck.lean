import Exchange.Proofs.Suite.Expectation

/-! # Text checks of suites

Four kinds of expectations check one text of an outcome, which may be absent. The reason, a header
field and a cookie pass exactly as the check accepts the optional text. The view does so where one
is set; where none is set, the check is asked about an empty text instead of an absent one.
-/

namespace Exchange

/-- The check that asks the same and turns the answer round. -/
def TextCheck.flip (check : TextCheck) : TextCheck :=
  { check with options := { check.options with negated := !check.options.negated } }

section

variable {check : TextCheck} {p : TextPredicate}

theorem TextCheck.compile_eq_ok_iff : check.compile = .ok p ↔
    ∃ m, check.matcher.compile? = some m ∧ p = ⟨m, check.options⟩ := by
  rw [compile, compile?]
  cases check.matcher.compile? <;> simp [eq_comm]

theorem TextCheck.flip_compile (compiled : check.compile = .ok p) :
    ∃ q, check.flip.compile = .ok q ∧ ∀ text, q.acceptsOptional text = !p.acceptsOptional text := by
  obtain ⟨m, read, rfl⟩ := compile_eq_ok_iff.mp compiled
  refine ⟨⟨m, check.flip.options⟩, compile_eq_ok_iff.mpr ⟨m, read, rfl⟩, fun text => ?_⟩
  simp only [TextPredicate.acceptsOptional, flip]
  cases m.answer check.options.caseSensitive text <;> cases check.options.negated <;> rfl

end

/-- What a text check of a suite is about. -/
inductive Subject where
  | reason
  | header (name : String)
  | cookie (name : String)
  | view

namespace Subject

variable {s : Subject} {check : TextCheck} {p : TextPredicate} {o : Outcome}

/-- The expectation that a subject passes a check. -/
def expectation (check : TextCheck) : Subject → Expectation
  | reason => .statusReason check
  | header name => .header name check
  | cookie name => .cookie name check
  | view => .viewName check

/-- The text of a subject. It is the first header field or cookie of a name that counts. -/
def text? (o : Outcome) : Subject → Option String
  | reason => o.response.reason
  | header name =>
    (o.response.headers.find? fun (n, _) => Text.sameIgnoringCase n name).map Prod.snd
  | cookie name => (o.response.cookies.find? fun c => c.name == name).map Cookie.value
  | view => o.modelAndView.bind fun m => m.view.map View.text

/-- Does the outcome have the part that a subject belongs to? -/
def Reached (o : Outcome) : Subject → Prop
  | view => ∃ m, o.modelAndView = some m
  | _ => True

/-- No view is set. -/
def NoView (o : Outcome) (s : Subject) : Prop := s = view ∧ s.text? o = none

/-- The text that the check is asked about. -/
def asked (o : Outcome) : Subject → Option String
  | view => some ((view.text? o).getD "")
  | s => s.text? o

theorem asked_of_noView (none : s.NoView o) : s.asked o = some "" := by
  obtain ⟨rfl, absent⟩ := none
  rw [asked, absent]
  rfl

theorem asked_of_not_noView (set : ¬ s.NoView o) : s.asked o = s.text? o := by
  cases s with
  | reason | header _ | cookie _ => rfl
  | view =>
      cases text : view.text? o with
      | none => exact absurd ⟨rfl, text⟩ set
      | some name =>
          rw [asked, text]
          rfl

/-- The matcher of an expectation about a subject. -/
def matcher (p : TextPredicate) : Subject → Matcher
  | reason => .status (.reasonPasses p)
  | header name => .header name (.passes p)
  | cookie name => .cookie name (.passes p)
  | view => .view (.nameSatisfies p.toPredicate)

theorem compile_expectation (compiled : check.compile = .ok p) :
    (s.expectation check).compile = .ok (s.matcher p) := by
  cases s <;>
    · simp only [expectation, Expectation.compile, compiled]
      rfl

theorem rules_iff (compiled : check.compile = .ok p) {ruling : Ruling} :
    (s.expectation check).Rules o ruling ↔ (s.matcher p).verify o = ruling := by
  have compiled := compile_expectation (s := s) compiled
  rw [← Expectation.verify_eq_iff ⟨_, compiled⟩, Expectation.verify_of_compile compiled]

theorem reasonPasses_eq_pass_iff {r : Response} :
    (StatusMatcher.reasonPasses p).rule r = .pass ↔ p.acceptsOptional r.reason = true := by
  rw [StatusMatcher.rule]
  split
  · -- An absent reason has words of its own, but it is refused by the check all the same.
    rename_i refused
    obtain ⟨absent, refused⟩ : r.reason = none ∧ p.acceptsOptional none = false := by
      simpa using refused
    rw [absent, refused]
    simp [Ruling.pass]
  · exact Ruling.passes_eq_pass_iff

theorem header?_eq_find? (r : Response) (name : String) : r.header? name =
    (r.headers.find? fun (n, _) => Text.sameIgnoringCase n name).map Prod.snd := by
  rw [Response.header?, Headers.first?, Headers.values, List.head?_map, List.head?_filter]

theorem verify_eq_pass_iff (reached : s.Reached o) :
    (s.matcher p).verify o = .pass ↔ p.acceptsOptional (s.asked o) = true := by
  rw [Matcher.verify_eq]
  cases s with
  | reason => exact reasonPasses_eq_pass_iff
  | header name =>
      rw [asked, text?, ← header?_eq_find?]
      · exact Ruling.passes_eq_pass_iff
      · nofun
  | cookie name => exact Ruling.passes_eq_pass_iff
  | view =>
      obtain ⟨m, given⟩ := reached
      simp only [matcher, ViewMatcher.rule, asked, text?, given]
      exact Ruling.satisfies_eq_pass_iff

theorem rules_pass_iff (compiled : check.compile = .ok p) (reached : s.Reached o) :
    (s.expectation check).Rules o .pass ↔ p.acceptsOptional (s.asked o) = true :=
  (rules_iff compiled).trans (verify_eq_pass_iff reached)

/-- How a check judges a subject. -/
structure Judged (s : Subject) (check : TextCheck) (p : TextPredicate) (o : Outcome) : Prop where
  /-- The check is asked about the optional text, but about an empty one where no view is set. -/
  asked : (s.expectation check).Rules o .pass ↔ p.acceptsOptional (s.asked o) = true
  /-- So the verdict is that about the optional text, unless no view is set and the check tells an
      empty text from an absent one. -/
  follows : ((s.expectation check).Rules o .pass ↔ p.acceptsOptional (s.text? o) = true) ↔
    ¬(s.NoView o ∧ p.acceptsOptional (some "") ≠ p.acceptsOptional none)
  /-- A question of presence is answered by whether the text is there. -/
  presence (expected : Bool) : check.matcher = .presence expected →
    check.options.negated = false → ¬ s.NoView o →
    ((s.expectation check).Rules o .pass ↔ (s.text? o).isSome = expected)
  /-- The check turned round gives the other verdict. -/
  flipped : (s.expectation check.flip).Rules o .pass ↔ ¬ (s.expectation check).Rules o .pass

/-- A check that compiles judges every subject that an outcome may have. -/
theorem judged (s : Subject) (compiled : check.compile = .ok p) (reached : s.Reached o) :
    s.Judged check p o where
  asked := rules_pass_iff compiled reached
  follows := by
    rw [rules_pass_iff compiled reached]
    by_cases none : s.NoView o
    · rw [asked_of_noView none, none.2, ← Bool.eq_iff_iff]
      simp [none]
    · rw [asked_of_not_noView none]
      simp [none]
  presence expected asks straight set := by
    obtain ⟨m, read, rfl⟩ := TextCheck.compile_eq_ok_iff.mp compiled
    rw [asks] at read
    cases read
    rw [rules_pass_iff compiled reached, asked_of_not_noView set]
    rw [TextPredicate.acceptsOptional, CompiledMatcher.answer, straight, Bool.bne_false, beq_iff_eq,
      eq_comm]
  flipped := by
    obtain ⟨q, turned, opposite⟩ := TextCheck.flip_compile compiled
    rw [rules_pass_iff compiled reached, rules_pass_iff turned reached, opposite]
    simp

/-- A check that there is no view accepts an absent text, and yet it fails where no view is set. -/
theorem view_not_set :
    TextCheck.compile ⟨.presence false, {}⟩ = .ok ⟨.presence false, {}⟩ ∧
    view.Reached { modelAndView := some {} } ∧ view.text? { modelAndView := some {} } = none ∧
    TextPredicate.acceptsOptional ⟨.presence false, {}⟩ none = true ∧
    ¬(view.expectation ⟨.presence false, {}⟩).Rules { modelAndView := some {} } .pass := by
  refine ⟨rfl, ⟨_, rfl⟩, rfl, rfl, fun passed => ?_⟩
  have accepted := (rules_pass_iff (s := view) rfl ⟨_, rfl⟩).mp passed
  exact absurd accepted (by decide)

/-- Of two header fields whose names differ in case alone, the first is checked. -/
theorem judged_header :
    let check : TextCheck := ⟨.compare .equals "no-store", {}⟩
    let o : Outcome :=
      { response := { headers := [("cache-control", "no-store"), ("Cache-Control", "No-Store")] } }
    check.compile = .ok ⟨.compare .equals "no-store", {}⟩ ∧ (header "CACHE-CONTROL").Reached o ∧
    ((header "CACHE-CONTROL").expectation check).Rules o .pass ∧
    ¬((header "CACHE-CONTROL").expectation check.flip).Rules o .pass := by
  intro check o
  have fields : (header "CACHE-CONTROL").Judged check ⟨.compare .equals "no-store", {}⟩ o :=
    judged (header "CACHE-CONTROL") rfl trivial
  have passed := fields.asked.mpr (by decide +kernel)
  exact ⟨rfl, trivial, passed, fun turned => fields.flipped.mp turned passed⟩

end Subject

end Exchange
