import Exchange.Proofs.Suite.Expectation
import Exchange.Suite.Load

/-! # Valid suites

Validation accepts exactly the suites whose expectations all have the right form and compile, and
otherwise tells of the first expectation that does not. What it accepts can be relied on: such a
suite has its matchers, and it rules on an outcome as its expectations do one after the other.
-/

namespace Exchange

namespace Expectation

variable {e : Expectation} {problem : Problem}

/-- The form of an expectation is right. -/
def WellFormed : Expectation → Prop
  | header name _ | cookie name _ => name ≠ ""
  | modelAttributeExists names | flashAttributeExists names => names ≠ []
  | status code => 100 ≤ code ∧ code ≤ 999
  | _ => True

/-- An expectation of the right form that stands for a matcher. -/
def Sound (e : Expectation) : Prop := e.WellFormed ∧ ∃ m, e.compile = .ok m

/-- The problem of an expectation. Only one of the right form is faulted for what does not
    compile. -/
inductive HasProblem : Expectation → Problem → Prop
  | header (check : TextCheck) : HasProblem (.header "" check) .emptyName
  | cookie (check : TextCheck) : HasProblem (.cookie "" check) .emptyName
  | model : HasProblem (.modelAttributeExists []) .noNames
  | flash : HasProblem (.flashAttributeExists []) .noNames
  | status {code : Nat} (outside : code < 100 ∨ 999 < code) :
      HasProblem (.status code) (.statusCode code)
  | compile {e : Expectation} {f : Failure} (formed : e.WellFormed)
      (refused : e.compile = .error f) : HasProblem e (.compile f)

theorem formProblem?_eq_none_iff : e.formProblem? = none ↔ e.WellFormed := by
  cases e <;> simp [formProblem?, WellFormed]

theorem hasProblem_of_formProblem? (found : e.formProblem? = some problem) :
    e.HasProblem problem := by
  cases e with
  | header name check | cookie name check =>
      obtain ⟨rfl, rfl⟩ : name = "" ∧ .emptyName = problem := by simpa [formProblem?] using found
      constructor
  | modelAttributeExists names | flashAttributeExists names =>
      obtain ⟨rfl, rfl⟩ : names = [] ∧ .noNames = problem := by simpa [formProblem?] using found
      constructor
  | status code =>
      obtain ⟨outside, rfl⟩ : (100 ≤ code → 999 < code) ∧ .statusCode code = problem := by
        simpa [formProblem?] using found
      exact .status (by omega)
  | _ => cases found

theorem problem?_eq_none_iff : e.problem? = none ↔ e.Sound := by
  rw [problem?, Sound, ← formProblem?_eq_none_iff]
  cases e.formProblem? with
  | some problem => simp
  | none => cases e.compile <;> simp

theorem problem?_eq_some_iff : e.problem? = some problem ↔ e.HasProblem problem := by
  constructor
  · intro found
    unfold problem? at found
    split at found
    · cases found
      exact hasProblem_of_formProblem? ‹_›
    · rename_i formed
      split at found
      · cases found
      · cases found
        exact .compile (formProblem?_eq_none_iff.mp formed) ‹_›
  · intro has
    cases has with
    | header _ | cookie _ | model | flash => rfl
    | status outside => rw [problem?, formProblem?, if_neg (by omega)]
    | compile formed refused =>
        simp [problem?, formProblem?_eq_none_iff.mpr formed, refused]

end Expectation

namespace Suite

variable {s : Suite} {fault : Fault}

theorem faultFrom?_eq_none_iff {es : List Expectation} {index : Nat} :
    faultFrom? index es = none ↔ ∀ e ∈ es, e.Sound := by
  induction es generalizing index with
  | nil => simp [faultFrom?]
  | cons e rest ih =>
      rw [faultFrom?, List.forall_mem_cons, ← Expectation.problem?_eq_none_iff]
      cases e.problem? with
      | some problem => simp
      | none => simpa using ih

/-- The fault is that of the first expectation that is not sound, those before it counted. -/
theorem faultFrom?_eq_some_iff {es : List Expectation} {index : Nat} :
    faultFrom? index es = some fault ↔ ∃ before e after, es = before ++ e :: after ∧
      (∀ d ∈ before, d.Sound) ∧ e.HasProblem fault.problem ∧
      fault.index = index + before.length ∧ fault.kind = e.kind := by
  -- What lies before is counted from any index on, since the rest is numbered after its first.
  obtain ⟨index', kind, problem'⟩ := fault
  simp only [← Expectation.problem?_eq_none_iff, ← Expectation.problem?_eq_some_iff]
  induction es generalizing index with
  | nil => simp [faultFrom?]
  | cons e rest ih =>
      rw [faultFrom?, exists_split_cons_iff]
      cases found : e.problem? with
      | some problem =>
          have unsound : ∀ before, ¬ ∀ d ∈ e :: before, d.problem? = none := by simp [found]
          simp only [unsound, false_and, and_false, exists_false, or_false]
          constructor
          · intro same
            cases same
            exact ⟨nofun, rfl, rfl, rfl⟩
          · rintro ⟨-, same, rfl, rfl⟩
            cases same
            rfl
      | none => simp [found, ih, Nat.add_assoc, Nat.add_comm 1]

/-- A suite's fault is that of its first expectation that is not sound. -/
def FirstFault (s : Suite) (fault : Fault) : Prop :=
  ∃ before e after, s.expectations = before ++ e :: after ∧ (∀ d ∈ before, d.Sound) ∧
    e.HasProblem fault.problem ∧ fault.index = before.length ∧ fault.kind = e.kind

theorem fault?_eq_some_iff : s.fault? = some fault ↔ s.FirstFault fault := by
  rw [fault?, faultFrom?_eq_some_iff, FirstFault]
  simp only [Nat.zero_add]

theorem validate_eq_ok_iff : s.validate = .ok () ↔ ∀ e ∈ s.expectations, e.Sound := by
  have faultless : s.fault? = none ↔ ∀ e ∈ s.expectations, e.Sound := faultFrom?_eq_none_iff
  rw [← faultless, validate]
  cases s.fault? <;> simp

theorem validate_eq_error_iff : s.validate = .error fault ↔ s.FirstFault fault := by
  rw [← fault?_eq_some_iff, validate]
  cases s.fault? <;> simp

theorem Fault.message_eq (fault : Fault) : ∃ rest, fault.message =
    "Expectation #" ++ shown fault.index ++ " (" ++ fault.kind.name ++ ")" ++ rest := by
  unfold message
  split
  · rename_i words _
    exact ⟨": " ++ words, by simp only [String.append_assoc]⟩
  · exact ⟨"", String.append_empty.symm⟩

theorem validate_of_load {format : Format} {text : String} (loaded : load format text = .ok s) :
    s.validate = .ok () := by
  unfold load at loaded
  split at loaded
  · cases loaded
  · rename_i suite _
    obtain ⟨_, accepted, rfl⟩ := map_eq_ok_iff.mp loaded
    cases valid : suite.validate with
    | ok _ => rfl
    | error fault =>
        rw [valid] at accepted
        cases accepted

theorem validate_of_loadFile {path : String} {content : Option String}
    (loaded : loadFile path content = .ok s) : s.validate = .ok () := by
  cases content with
  | none => cases loaded
  | some text =>
      rw [loadFile] at loaded
      cases read : load (.ofFile path) text with
      | error fault =>
          rw [read] at loaded
          cases loaded
      | ok suite =>
          rw [read] at loaded
          cases loaded
          exact validate_of_load read

/-- A suite that can be relied on. -/
structure Dependable (s : Suite) : Prop where
  /-- It has one matcher per expectation, in order. -/
  compiles : ∃ matchers, s.compile = .ok matchers ∧
    List.Forall₂ (fun e m => e.compile = .ok m) s.expectations matchers
  /-- What passes all expectations passes the suite. -/
  passes (o : Outcome) : s.verify o = .pass ↔ ∀ e ∈ s.expectations, e.Rules o .pass
  /-- What fails the suite fails it as the first expectation that it fails. -/
  fails (o : Outcome) (f : Failure) : s.verify o = .error f ↔
    ∃ before e after, s.expectations = before ++ e :: after ∧ (∀ d ∈ before, d.Rules o .pass) ∧
      e.Rules o (.error f)
  /-- Nothing is left to be refused about an expression. -/
  noneRefused (o : Outcome) (f : Failure) : s.verify o = .error f → f.kind ≠ .compile
  /-- Followed by another suite that can be relied on, it is verified first. -/
  followed (next both : Suite) (o : Outcome) : next.validate = .ok () →
    both.expectations = s.expectations ++ next.expectations →
    both.verify o = s.verify o >>= fun _ => next.verify o

theorem verify_eq_all_of_sound (sound : ∀ e ∈ s.expectations, e.Sound) (o : Outcome) :
    s.verify o = Ruling.all (Expectation.verify o) s.expectations := by
  obtain ⟨matchers, compiled⟩ := exists_compile fun e member => (sound e member).2
  exact verify_eq_all compiled o

theorem verify_eq_error_iff (sound : ∀ e ∈ s.expectations, e.Sound) {o : Outcome} {f : Failure} :
    s.verify o = .error f ↔ ∃ before e after, s.expectations = before ++ e :: after ∧
      (∀ d ∈ before, d.Rules o .pass) ∧ e.Rules o (.error f) := by
  rw [verify_eq_all_of_sound sound, Ruling.all_eq_error_iff]
  refine exists₃_congr fun before e after => and_congr_right fun split => ?_
  have sound : ∀ d ∈ before ++ e :: after, d.Sound := split ▸ sound
  refine and_congr (forall₂_congr fun d member => ?_) ?_
  · exact Expectation.verify_eq_iff (sound d (List.mem_append_left _ member)).2
  · exact Expectation.verify_eq_iff (sound e (by simp)).2

theorem dependable_of_sound (sound : ∀ e ∈ s.expectations, e.Sound) : s.Dependable where
  compiles := by
    obtain ⟨matchers, compiled⟩ := exists_compile fun e member => (sound e member).2
    exact ⟨matchers, compiled, compile_eq_ok_iff.mp compiled⟩
  passes o := by
    rw [verify_eq_all_of_sound sound, Ruling.all_eq_pass_iff]
    exact forall₂_congr fun e member => Expectation.verify_eq_iff (sound e member).2
  fails o f := verify_eq_error_iff sound
  noneRefused o f failed := by
    obtain ⟨_, e, _, _, _, m, compiled, failed⟩ := (verify_eq_error_iff sound).mp failed
    exact Matcher.kind_ne_compile (Expectation.built_of_compile compiled) failed
  followed next both o valid appended := by
    -- All matchers of both are compiled before any is run, so the second has to be sound too.
    have soundNext := validate_eq_ok_iff.mp valid
    have soundBoth : ∀ e ∈ both.expectations, e.Sound := by
      rw [appended]
      exact List.forall_mem_append.mpr ⟨sound, soundNext⟩
    rw [verify_eq_all_of_sound sound, verify_eq_all_of_sound soundNext,
      verify_eq_all_of_sound soundBoth, appended, Ruling.all_append]

/-- What validation says of a suite. -/
structure ExactlyValidated (s : Suite) : Prop where
  /-- It is accepted if each expectation has the right form and compiles. -/
  accepted : s.validate = .ok () ↔ ∀ e ∈ s.expectations, e.WellFormed ∧ ∃ m, e.compile = .ok m
  /-- It is refused for its first expectation that has not or does not. -/
  refused (fault : Fault) : s.validate = .error fault ↔ s.FirstFault fault
  /-- The fault names the expectation by number and kind. -/
  named (fault : Fault) : s.validate = .error fault → ∃ rest, fault.message =
    "Expectation #" ++ shown fault.index ++ " (" ++ fault.kind.name ++ ")" ++ rest
  /-- Only what is accepted is ever loaded. -/
  loaded (format : Format) (text : String) : load format text = .ok s → s.validate = .ok ()
  loadedFile (path : String) (content : Option String) :
    loadFile path content = .ok s → s.validate = .ok ()
  /-- What is accepted can be relied on. -/
  dependable : s.validate = .ok () → s.Dependable

/-- Validation is exact, and it makes verification safe. -/
theorem exactlyValidated (s : Suite) : s.ExactlyValidated where
  accepted := validate_eq_ok_iff
  refused _ := validate_eq_error_iff
  named fault _ := fault.message_eq
  loaded _ _ := validate_of_load
  loadedFile _ _ := validate_of_loadFile
  dependable valid := dependable_of_sound (validate_eq_ok_iff.mp valid)

/-- A suite that asks for a status, for an attribute and for a header field. -/
def sample : Suite where
  expectations := [.status 200,
    .xpath "//p:a/@href" [("p", "urn:a")] (.text ⟨.compare .startsWith "/", {}⟩),
    .header "ETag" ⟨.pattern "^W/", { negated := true }⟩]

/-- An empty body is no document, which the second expectation is the first to find. -/
theorem exactlyValidated_sample : sample.validate = .ok () ∧
    sample.verify {} = .error (.content .xml) ∧
    ∃ before e after, sample.expectations = before ++ e :: after ∧
      (∀ d ∈ before, d.Rules {} .pass) ∧ e.Rules {} (.error (.content .xml)) := by
  have valid : sample.validate = .ok () := by decide +kernel
  have failed : sample.verify {} = .error (.content .xml) := by decide +kernel
  have dependable := (exactlyValidated sample).dependable valid
  exact ⟨valid, failed, (dependable.fails {} (.content .xml)).mp failed⟩

/-- The first expectation that is not sound is told, and its form first. -/
example : validate { expectations := [.status 99, .header "" {}] } =
    .error ⟨0, .status, .statusCode 99⟩ := by rfl

end Suite

end Exchange
