import Exchange.Suite.Compile

/-! # Validation of suites

A suite is valid if each of its expectations is well formed and stands for a matcher; otherwise the
first one that is not tells why. What is wrong with the form of an expectation comes first.
-/

namespace Exchange

namespace Expectation

/-- What is wrong with an expectation. -/
inductive Problem where
  | emptyName
  | noNames
  | statusCode (code : Nat)
  /-- It stands for no matcher. -/
  | compile (failure : Failure)
  deriving Repr, DecidableEq

/-- The problem in words, unless a failure tells it. -/
def Problem.words? : Problem → Option String
  | emptyName => some "name must not be empty"
  | noNames => some "at least one attribute name is required"
  | statusCode code => some ("invalid status code " ++ shown code)
  | compile _ => none

/-- The failure behind a problem. -/
def Problem.cause? : Problem → Option Failure
  | compile failure => some failure
  | _ => none

/-- What is wrong with the form of an expectation. -/
def formProblem? : Expectation → Option Problem
  | header name _ | cookie name _ => if name = "" then some .emptyName else none
  | modelAttributeExists names | flashAttributeExists names =>
    if names.isEmpty then some .noNames else none
  | status code => if 100 ≤ code ∧ code ≤ 999 then none else some (.statusCode code)
  | _ => none

/-- What is wrong with an expectation. -/
def problem? (e : Expectation) : Option Problem :=
  match e.formProblem? with
  | some problem => some problem
  | none => match e.compile with
    | .ok _ => none
    | .error failure => some (.compile failure)

end Expectation

namespace Suite

/-- The expectation of a suite that has a problem. -/
structure Fault where
  index : Nat
  kind : Expectation.Kind
  problem : Expectation.Problem
  deriving Repr, DecidableEq

/-- The fault in words. -/
def Fault.message (f : Fault) : String :=
  let subject := "Expectation #" ++ shown f.index ++ " (" ++ f.kind.name ++ ")"
  match f.problem.words? with
  | some words => subject ++ ": " ++ words
  | none => subject

/-- The first expectation that has a problem, of some whose first one has number `index`. -/
def faultFrom? (index : Nat) : List Expectation → Option Fault
  | [] => none
  | e :: rest => match e.problem? with
    | some problem => some ⟨index, e.kind, problem⟩
    | none => faultFrom? (index + 1) rest

/-- The first expectation of a suite that has a problem. -/
def fault? (s : Suite) : Option Fault := faultFrom? 0 s.expectations

/-- Accept a suite without faults. -/
def validate (s : Suite) : Except Fault Unit :=
  match s.fault? with
  | some fault => .error fault
  | none => .ok ()

/-- What is worth a warning about a suite. -/
def warnings (s : Suite) : List String :=
  if s.expectations.isEmpty then ["Expectation suite has no expectations"] else []

end Suite

end Exchange
