import Exchange.Dump
import Exchange.Matcher.Basic

/-! # Chains of expectations

A chain takes one outcome through steps: expectations, and actions that print or log the outcome. It
ends with the first step that fails.
-/

namespace Exchange

/-- What can be done with an outcome. -/
inductive Action where
  | print
  | log
  /-- Print to something that refuses to be written to, for a reason. -/
  | printRefused (reason : String)
  /-- Any other action. -/
  | custom (run : Outcome → Run)

/-- The line that is logged before an outcome. -/
def logHeading : String := "Exchange outcome:"

/-- Run an action on an outcome. -/
def Action.run (o : Outcome) : Action → Run
  | print => ⟨{ printed := Dump.text o }, Ruling.pass⟩
  | log => ⟨{ logged := logHeading :: Dump.lines o }, Ruling.pass⟩
  | printRefused reason => Run.of (.error (.output reason))
  | custom run => run o

namespace Chain

/-- A step of a chain. -/
inductive Step where
  | expect (check : Check)
  /-- Checks one after the other up to the first that fails. -/
  | expectAll (checks : List Check)
  | doing (action : Action)

/-- How the failure of a single check is noted. -/
def failedHeading : String := "Expectation failed"

/-- How the failure of one of several checks is noted. -/
def skippingHeading : String := "Expectation failed; skipping the rest of the chain"

/-- Take a step. -/
def Step.run (o : Outcome) : Step → Run
  | expect check => (check.run o).noting failedHeading none
  | expectAll checks => checks.zipIdx |> Run.all fun (check, place) =>
    (check.run o).noting skippingHeading (some place)
  | doing action => action.run o

/-- The runs of the steps up to the first that fails. -/
def runs (o : Outcome) : List Step → List Run
  | [] => []
  | step :: rest =>
    let run := step.run o
    match run.ruling with
    | .ok () => run :: runs o rest
    | .error _ => [run]

/-- The effects of some runs. -/
def effects (runs : List Run) : Effects :=
  runs.foldr (fun run later => run.effects ++ later) Effects.none

/-- What becomes of a chain as a whole. -/
def run (o : Outcome) (steps : List Step) : Run := Run.all (Step.run o) steps

end Chain

end Exchange
