import Exchange.Matcher.Chain
import Exchange.Proofs.Matcher.Run

/-! # What a chain leaves behind

A chain runs its steps up to the first that fails, which still counts, and what it leaves behind is
what these steps leave behind, one after the other. A step with several checks runs them in the same
way, so that it does not matter how the checks of a chain are spread over its steps, apart from the
note that is made of the check that failed.
-/

namespace Exchange

namespace Run

variable {r s : Run}

/-- Runs that rule alike and leave the same behind, where the notes of failed expectations may differ
    in heading and place. -/
structure Alike (r s : Run) : Prop where
  ruling : r.ruling = s.ruling
  calls : r.effects.calls = s.effects.calls
  printed : r.effects.printed = s.effects.printed
  logged : r.effects.logged = s.effects.logged
  causes : r.effects.notes.map Note.cause = s.effects.notes.map Note.cause

/-- The run with headings and places taken off its notes. -/
def bare (r : Run) : Run :=
  ⟨{ r.effects with notes := r.effects.notes.map fun note => ⟨"", none, note.cause⟩ }, r.ruling⟩

theorem alike_of_bare (same : r.bare = s.bare) : r.Alike s where
  ruling := (congrArg Run.ruling same :)
  calls := (congrArg (fun run => run.effects.calls) same :)
  printed := (congrArg (fun run => run.effects.printed) same :)
  logged := (congrArg (fun run => run.effects.logged) same :)
  causes := by
    have causes := congrArg (fun run => run.effects.notes.map Note.cause) same
    simp only [bare, List.map_map] at causes
    exact causes

theorem bare_andThen {second : Unit → Run} :
    (r.andThen second).bare = r.bare.andThen fun _ => (second ()).bare := by
  rcases r.ruling_cases with passed | ⟨f, failed⟩
  · rw [andThen_of_pass passed, andThen_of_pass (show r.bare.ruling = _ from passed)]
    refine ext (Effects.ext rfl rfl rfl ?_) rfl
    exact List.map_append
  · rw [andThen_of_error failed, andThen_of_error (show r.bare.ruling = _ from failed)]

theorem bare_all {α : Type} (run : α → Run) (items : List α) :
    (all run items).bare = all (fun a => (run a).bare) items := by
  induction items with
  | nil => rfl
  | cons a rest ih => rw [all_cons, bare_andThen, ih, all_cons]

end Run

namespace Chain

open Run (Course)

variable (o : Outcome)

theorem runs_cons_of_pass {step : Step} (passed : (step.run o).ruling = Ruling.pass)
    (rest : List Step) : runs o (step :: rest) = step.run o :: runs o rest := by
  rw [runs, passed]
  rfl

theorem runs_cons_of_error {step : Step} {f : Failure} (failed : (step.run o).ruling = .error f)
    (rest : List Step) : runs o (step :: rest) = [step.run o] := by
  rw [runs, failed]

theorem runs_of_course {steps ran : List Step} {ruling : Ruling}
    (course : Course (Step.run o) steps ran ruling) : runs o steps = ran.map (Step.run o) := by
  cases course with
  | passed pass =>
      induction steps with
      | nil => rfl
      | cons step rest ih =>
          obtain ⟨first, others⟩ := List.forall_mem_cons.mp pass
          rw [runs_cons_of_pass o first, ih others, List.map_cons]
  | @failed before step after f pass failure =>
      induction before with
      | nil => exact runs_cons_of_error o failure after
      | cons earlier before ih =>
          obtain ⟨first, others⟩ := List.forall_mem_cons.mp pass
          rw [List.cons_append, runs_cons_of_pass o first, ih others]
          rfl

theorem of_effects (runs : List Run) : (effects runs).Of runs := by
  induction runs with
  | nil => exact .nil
  | cons r later ih => exact ih.cons r

theorem effects_runs (steps : List Step) : effects (runs o steps) = (run o steps).effects := by
  obtain ⟨ran, course, effects⟩ := Run.exists_course (Step.run o) steps
  rw [runs_of_course o course]
  exact (of_effects _).unique effects

/-- One expectation or one action of a chain. An expectation among several has a place. -/
inductive Part where
  | expectation (check : Check) (place : Option Nat)
  | action (action : Action)

namespace Part

/-- What is noted of an expectation that ends with a ruling. -/
def notes (place : Option Nat) : Ruling → List Note
  | .ok () | .error (.aborted ..) => []
  | .error cause =>
    let heading := match place with
      | none => "Expectation failed"
      | some _ => "Expectation failed; skipping the rest of the chain"
    [⟨heading, place, cause⟩]

/-- What an expectation or an action does by itself: a matcher rules and leaves nothing behind, and
    the actions print or log the outcome or cannot. -/
def run (o : Outcome) : Part → Run
  | expectation check place =>
    let ran := match check with
      | .matcher m => Run.of (m.verify o)
      | .hooks hooks => hooks.run o
      | .custom run => run o
    ⟨ran.effects ++ { notes := notes place ran.ruling }, ran.ruling⟩
  | action .print => ⟨{ printed := Dump.text o }, Ruling.pass⟩
  | action .log => ⟨{ logged := "Exchange outcome:" :: Dump.lines o }, Ruling.pass⟩
  | action (.printRefused reason) => Run.of (.error (.output reason))
  | action (.custom run) => run o

/-- The part without its place. -/
def unplaced : Part → Part
  | expectation check _ => expectation check none
  | action a => action a

theorem run_expectation (check : Check) (place : Option Nat) :
    run o (expectation check place) = ⟨(check.run o).effects ++
      { notes := notes place (check.run o).ruling }, (check.run o).ruling⟩ := by
  cases check with
  | matcher m => rw [run, Check.run, Matcher.run_hooks]
  | hooks | custom => rfl

theorem run_action (a : Action) : run o (action a) = a.run o := by
  cases a <;> rfl

theorem noting_eq (r : Run) (place : Option Nat) : r.noting
      (match place with | none => failedHeading | some _ => skippingHeading) place =
    ⟨r.effects ++ { notes := notes place r.ruling }, r.ruling⟩ := by
  have quiet : r.effects ++ { notes := [] } = r.effects := Effects.append_none _
  obtain ⟨effects, ruling⟩ := r
  cases ruling with
  | ok => exact Run.ext quiet.symm rfl
  | error f =>
      cases f with
      | aborted => exact Run.ext quiet.symm rfl
      | assertion | compile | coercion | evaluation | content | mediaType | output =>
          cases place <;> rfl

theorem bare_run_unplaced (part : Part) : (part.unplaced.run o).bare = (part.run o).bare := by
  cases part with
  | action a => rfl
  | expectation check place =>
      rw [unplaced, run_expectation, run_expectation]
      refine Run.ext (Effects.ext rfl rfl rfl ?_) rfl
      simp only [Run.bare, Effects.append_notes, List.map_append]
      cases (check.run o).ruling with
      | ok => rfl
      | error f => cases f <;> rfl

end Part

/-- The expectations and actions that a step consists of. -/
def Step.parts : Step → List Part
  | expect check => [.expectation check none]
  | expectAll checks => checks.zipIdx.map fun (check, place) => .expectation check (some place)
  | doing action => [.action action]

theorem Step.run_eq (step : Step) : step.run o = Run.all (Part.run o) step.parts := by
  cases step with
  | expect check =>
      rw [parts, Run.all_singleton, Part.run_expectation, ← Part.noting_eq]
      rfl
  | expectAll checks =>
      rw [parts, Run.all_map]
      refine Run.all_congr fun (check, place) _ => ?_
      rw [Part.run_expectation, ← Part.noting_eq]
  | doing action =>
      rw [parts, Run.all_singleton, Part.run_action]
      rfl

theorem run_eq (steps : List Step) :
    run o steps = Run.all (Part.run o) (steps.flatMap Step.parts) := by
  rw [Run.all_flatMap, run]
  exact Run.all_congr fun step _ => step.run_eq o

/-- Chains of the same expectations and actions run alike. -/
theorem alike_of_parts {steps others : List Step} (same : (steps.flatMap Step.parts).map
    Part.unplaced = (others.flatMap Step.parts).map Part.unplaced) :
    (run o steps).Alike (run o others) := by
  apply Run.alike_of_bare
  have bare (steps : List Step) : (run o steps).bare =
      Run.all (fun part => (part.run o).bare) ((steps.flatMap Step.parts).map Part.unplaced) := by
    rw [run_eq, Run.bare_all, Run.all_map]
    exact Run.all_congr fun part _ => (part.bare_run_unplaced o).symm
  rw [bare, bare, same]

theorem unplaced_expectAll (checks : List Check) :
    (Step.parts (.expectAll checks)).map Part.unplaced =
      checks.map fun check => .expectation check none := by
  rw [Step.parts, List.map_map]
  conv => rhs; rw [← List.zipIdx_map_fst 0 checks, List.map_map]
  rfl

theorem unplaced_expect (checks : List Check) :
    ((checks.map Step.expect).flatMap Step.parts).map Part.unplaced =
      checks.map fun check => .expectation check none := by
  induction checks with
  | nil => rfl
  | cons check rest ih => exact congrArg (_ :: ·) ih

/-- The steps that are run are those up to the first that fails, whose failure is the failure of the
    chain, and what is left behind is what these steps leave behind, in their order. A step runs as
    its expectations and actions by themselves, so the same holds of these, and nothing is left
    behind by a check after the first that fails either. Checks may be spread over steps at will: only
    the heading and the place in the note of the one that fails depend on its step. -/
theorem chain_law (steps : List Step) :
    (∃ ran, Course (Step.run o) steps ran (run o steps).ruling ∧
      runs o steps = ran.map (Step.run o) ∧
      (run o steps).effects = effects (runs o steps) ∧ (run o steps).effects.Of (runs o steps)) ∧
    (∀ step : Step, step.run o = Run.all (Part.run o) step.parts) ∧
    (∃ ran, Course (Part.run o) (steps.flatMap Step.parts) ran (run o steps).ruling ∧
      (run o steps).effects.Of (ran.map (Part.run o))) ∧
    ∀ (before after : List Step) (xs ys : List Check),
      (run o (before ++ .expectAll (xs ++ ys) :: after)).Alike
        (run o (before ++ .expectAll xs :: .expectAll ys :: after)) ∧
      (run o (before ++ .expectAll (xs ++ ys) :: after)).Alike
        (run o (before ++ ((xs ++ ys).map .expect ++ after))) := by
  refine ⟨?_, Step.run_eq o, ?_, fun before after xs ys => ⟨?_, ?_⟩⟩
  · obtain ⟨ran, course, effects⟩ := Run.exists_course (Step.run o) steps
    have sameRuns := runs_of_course o course
    exact ⟨ran, course, sameRuns, (effects_runs o steps).symm, sameRuns ▸ effects⟩
  · rw [run_eq]
    exact Run.exists_course (Part.run o) _
  · apply alike_of_parts
    simp only [List.flatMap_append, List.flatMap_cons, List.map_append, unplaced_expectAll,
      List.append_assoc]
  · apply alike_of_parts
    simp only [List.flatMap_append, List.flatMap_cons, List.map_append, unplaced_expectAll,
      unplaced_expect, List.append_assoc]

/-- The second of two checks fails, so that neither the third nor the action behind them is run. -/
theorem chain_law_second_check_fails :
    let checks : List Check := [200, 404, 500].map fun code => .matcher (.status (.code code))
    let notFound : Failure := .assertion (.mismatch "Status" "404" "200")
    (Step.run {} (.expectAll checks)).effects =
        { notes := [⟨"Expectation failed; skipping the rest of the chain", some 1, notFound⟩] } ∧
      (∃ ran, Course (Step.run {}) [.doing .print, .expectAll checks, .doing .log] ran
          (.error notFound) ∧
        runs {} [.doing .print, .expectAll checks, .doing .log] = ran.map (Step.run {})) ∧
      (run {} [.doing .print, .expectAll checks, .doing .log]).Alike
        (run {} (.doing .print :: (checks.map .expect ++ [.doing .log]))) := by
  intro checks notFound
  obtain ⟨steps, apart, -, splits⟩ := chain_law {} [.doing .print, .expectAll checks, .doing .log]
  obtain ⟨ran, course, same, -⟩ := steps
  have failed : (run {} [.doing .print, .expectAll checks, .doing .log]).ruling =
      .error notFound := by rfl
  refine ⟨?_, ⟨ran, failed ▸ course, same⟩, (splits [.doing .print] [.doing .log] checks []).2⟩
  rw [apart]
  decide +kernel

end Chain

end Exchange
