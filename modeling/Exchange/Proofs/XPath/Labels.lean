import Mathlib
import Exchange.Proofs.Ruling
import Exchange.Proofs.XPath.Lexer
import Exchange.XPath.Eval
import Exchange.XPath.Reader

/-! # The prefixes in an expression

What holds of the prefixes in the tokens of an expression holds of those in the expression, and an
evaluation misses the namespace of no other prefix.
-/

namespace Exchange.XPath

variable {P : String → Prop}

/-- Every prefix in a name test of the expression is one of those that `P` says. -/
inductive Expr.Labelled (P : String → Prop) : Expr → Prop where
  | root : Labelled P .root
  | context : Labelled P .context
  | literal (s : String) : Labelled P (.literal s)
  | number (x : Float) : Labelled P (.number x)
  | reference (name : QName) : Labelled P (.variable name)
  | call (name : QName) {arguments : List Expr} (each : ∀ a ∈ arguments, Labelled P a) :
      Labelled P (.call name arguments)
  | binary (op : BinaryOp) {a b : Expr} (left : Labelled P a) (right : Labelled P b) :
      Labelled P (.binary op a b)
  | negate {a : Expr} (inner : Labelled P a) : Labelled P (.negate a)
  | path {start : Expr} {steps : List Step} (inner : Labelled P start)
      (tests : ∀ step ∈ steps, ∀ l, step.2.1.label? = some l → P l)
      (conditions : ∀ step ∈ steps, ∀ c ∈ step.2.2, Labelled P c) : Labelled P (.path start steps)
  | filter {a condition : Expr} (inner : Labelled P a) (outer : Labelled P condition) :
      Labelled P (.filter a condition)

/-- A step with no other prefixes. -/
def Step.Labelled (P : String → Prop) (step : Step) : Prop :=
  (∀ l, step.2.1.label? = some l → P l) ∧ ∀ c ∈ step.2.2, c.Labelled P

/-- Tokens with no other prefixes. -/
def Allowed (P : String → Prop) (tokens : List Token) : Prop :=
  ∀ token ∈ tokens, ∀ l, token.label? = some l → P l

theorem Allowed.cons_iff {token : Token} {rest : List Token} :
    Allowed P (token :: rest) ↔ (∀ l, token.label? = some l → P l) ∧ Allowed P rest :=
  List.forall_mem_cons

/-- What a reading comes to, if anything, and the tokens behind it have no other prefixes. -/
def Sound (P : String → Prop) (result : Option Expr × List Token) : Prop :=
  (∀ e, result.1 = some e → e.Labelled P) ∧ Allowed P result.2

theorem sound_none {rest : List Token} (allowed : Allowed P rest) : Sound P (none, rest) :=
  ⟨fun _ none => (nomatch none), allowed⟩

theorem sound_some {e : Expr} {rest : List Token} (labelled : e.Labelled P)
    (allowed : Allowed P rest) : Sound P (some e, rest) :=
  ⟨fun _ same => Option.some.inj same ▸ labelled, allowed⟩

theorem Sound.labelled {e : Expr} {rest : List Token} (sound : Sound P (some e, rest)) :
    e.Labelled P := sound.1 e rfl

theorem labelled_foldl_filter {e : Expr} {conditions : List Expr} (labelled : e.Labelled P)
    (each : ∀ c ∈ conditions, c.Labelled P) : (conditions.foldl Expr.filter e).Labelled P := by
  induction conditions generalizing e with
  | nil => exact labelled
  | cons c conditions ih =>
      obtain ⟨first, later⟩ := List.forall_mem_cons.mp each
      exact ih (.filter labelled first) later

mutual
theorem sound_of_readLevel {fuel level : Nat} {tokens : List Token}
    {result : Option Expr × List Token} (allowed : Allowed P tokens)
    (read : readLevel fuel level tokens = some result) : Sound P result := by
  cases fuel with
  | zero => cases read
  | succ fuel =>
      simp only [readLevel, bind] at read
      split at read
      · exact sound_of_readPath allowed read
      · split at read
        · simp only [Option.bind_eq_some_iff] at read
          obtain ⟨first, readFirst, read⟩ := read
          have sound := sound_of_readLevel allowed readFirst
          split at read
          · cases read
            exact sound
          · simp only [Option.bind_eq_some_iff] at read
            obtain ⟨operand, readOperand, read⟩ := read
            have inner := sound_of_readLevel (Allowed.cons_iff.mp sound.2).2 readOperand
            split at read
            · cases read
              exact sound_some (.negate inner.labelled) inner.2
            · cases read
          · cases read
            exact sound
        · simp only [Option.bind_eq_some_iff] at read
          obtain ⟨first, readFirst, read⟩ := read
          have sound := sound_of_readLevel allowed readFirst
          split at read
          · exact sound_of_readOperands sound.2 sound.labelled read
          · cases read
            exact sound
termination_by fuel

theorem sound_of_readOperands {fuel level : Nat} {tokens : List Token} {left : Expr}
    {result : Option Expr × List Token} (allowed : Allowed P tokens) (labelled : left.Labelled P)
    (read : readOperands fuel level left tokens = some result) : Sound P result := by
  cases fuel with
  | zero => cases read
  | succ fuel =>
      unfold readOperands at read
      split at read
      · split at read
        · simp only [bind, Option.bind_eq_some_iff] at read
          obtain ⟨right, readRight, read⟩ := read
          have sound := sound_of_readLevel (Allowed.cons_iff.mp allowed).2 readRight
          split at read
          · exact sound_of_readOperands sound.2 (.binary _ labelled sound.labelled) read
          · cases read
        · cases read
          exact sound_some labelled allowed
      · cases read
        exact sound_some labelled allowed
termination_by fuel

theorem sound_of_readPath {fuel : Nat} {tokens : List Token} {result : Option Expr × List Token}
    (allowed : Allowed P tokens) (read : readPath fuel tokens = some result) :
    Sound P result := by
  cases fuel with
  | zero => cases read
  | succ fuel =>
      simp only [readPath, bind, Option.bind_eq_some_iff] at read
      obtain ⟨first, readFirst, read⟩ := read
      have sound := sound_of_readSteps allowed .context readFirst
      split at read
      · cases read
        exact sound
      · simp only [Option.bind_eq_some_iff] at read
        obtain ⟨steps, readSteps, read⟩ := read
        have fromRoot := sound_of_readSteps (Allowed.cons_iff.mp sound.2).2 .root readSteps
        split at read
        · cases read
          exact fromRoot
        · cases read
          exact sound_some .root fromRoot.2
      · simp only [Option.bind_eq_some_iff] at read
        obtain ⟨primary, readPrimary, read⟩ := read
        have start := sound_of_readPrimary sound.2 readPrimary
        split at read
        · cases read
          exact start
        · simp only [Option.bind_eq_some_iff] at read
          obtain ⟨⟨conditions, behind⟩, readConditions, read⟩ := read
          obtain ⟨each, allowed'⟩ := labelled_of_readPredicates start.2 readConditions
          have filtered := labelled_foldl_filter start.labelled each
          dsimp only at read
          split at read
          · simp only [Option.bind_eq_some_iff] at read
            obtain ⟨steps, readSteps, read⟩ := read
            have sound' := sound_of_readSteps (Allowed.cons_iff.mp allowed').2 filtered readSteps
            split at read
            · cases read
              exact sound'
            · cases read
          · cases read
            exact sound_some filtered allowed'
termination_by fuel

theorem sound_of_readSteps {fuel : Nat} {tokens : List Token} {start : Expr}
    {result : Option Expr × List Token} (allowed : Allowed P tokens) (labelled : start.Labelled P)
    (read : readSteps fuel start tokens = some result) : Sound P result := by
  cases fuel with
  | zero => cases read
  | succ fuel =>
      simp only [readSteps, bind, Option.bind_eq_some_iff] at read
      obtain ⟨first, readFirst, read⟩ := read
      obtain ⟨step, allowed'⟩ := labelled_of_readStep allowed readFirst
      split at read
      · cases read
        exact sound_none allowed'
      · simp only [Option.bind_eq_some_iff] at read
        obtain ⟨⟨steps, behind'⟩, readMore, read⟩ := read
        obtain ⟨more, allowed''⟩ := labelled_of_readMoreSteps allowed' readMore
        cases read
        have each := List.forall_mem_cons.mpr ⟨step _ rfl, more⟩
        exact sound_some (.path labelled (fun s mem => (each s mem).1) fun s mem => (each s mem).2)
          allowed''
termination_by fuel

theorem labelled_of_readMoreSteps {fuel : Nat} {tokens : List Token}
    {result : List Step × List Token} (allowed : Allowed P tokens)
    (read : readMoreSteps fuel tokens = some result) :
    (∀ step ∈ result.1, Step.Labelled P step) ∧ Allowed P result.2 := by
  cases fuel with
  | zero => cases read
  | succ fuel =>
      unfold readMoreSteps at read
      split at read
      · simp only [bind, Option.bind_eq_some_iff] at read
        obtain ⟨first, readFirst, read⟩ := read
        obtain ⟨step, allowed'⟩ := labelled_of_readStep (Allowed.cons_iff.mp allowed).2 readFirst
        split at read
        · cases read
        · simp only [Option.bind_eq_some_iff] at read
          obtain ⟨⟨steps, behind'⟩, readMore, read⟩ := read
          obtain ⟨more, allowed''⟩ := labelled_of_readMoreSteps allowed' readMore
          cases read
          exact ⟨List.forall_mem_cons.mpr ⟨step _ rfl, more⟩, allowed''⟩
      · cases read
        exact ⟨fun _ mem => (nomatch mem), allowed⟩
termination_by fuel

theorem labelled_of_readStep {fuel : Nat} {tokens : List Token} {result : Option Step × List Token}
    (allowed : Allowed P tokens) (read : readStep fuel tokens = some result) :
    (∀ step, result.1 = some step → Step.Labelled P step) ∧ Allowed P result.2 := by
  cases fuel with
  | zero => cases read
  | succ fuel =>
      unfold readStep at read
      split at read
      rename_i axis behind split
      have allowed' : Allowed P behind := by
        split at split
        · cases split
          exact (Allowed.cons_iff.mp allowed).2
        · cases split
          exact allowed
      dsimp only at read
      split at read
      · cases read
        exact ⟨fun _ none => (nomatch none), allowed'⟩
      · rename_i test here
        simp only [bind, Option.bind_eq_some_iff] at read
        obtain ⟨⟨conditions, rest⟩, readConditions, read⟩ := read
        have later : Allowed P (behind.drop 1) :=
          fun token mem => allowed' token (List.mem_of_mem_drop mem)
        obtain ⟨each, allowed''⟩ := labelled_of_readPredicates later readConditions
        cases read
        refine ⟨fun step same => ?_, allowed''⟩
        cases same
        refine ⟨fun l label => ?_, each⟩
        split at here
        · cases here
          exact (Allowed.cons_iff.mp allowed').1 l label
        · cases here
          exact (Allowed.cons_iff.mp allowed').1 l label
        · cases here
termination_by fuel

theorem labelled_of_readPredicates {fuel : Nat} {tokens : List Token}
    {result : List Expr × List Token} (allowed : Allowed P tokens)
    (read : readPredicates fuel tokens = some result) :
    (∀ c ∈ result.1, c.Labelled P) ∧ Allowed P result.2 := by
  cases fuel with
  | zero => cases read
  | succ fuel =>
      unfold readPredicates at read
      split at read
      · simp only [bind, Option.bind_eq_some_iff] at read
        obtain ⟨first, readFirst, read⟩ := read
        have sound := sound_of_readLevel (Allowed.cons_iff.mp allowed).2 readFirst
        split at read
        · simp only [Option.bind_eq_some_iff] at read
          obtain ⟨⟨conditions, behind⟩, readMore, read⟩ := read
          obtain ⟨each, allowed'⟩ :=
            labelled_of_readPredicates (Allowed.cons_iff.mp sound.2).2 readMore
          cases read
          exact ⟨List.forall_mem_cons.mpr ⟨sound.labelled, each⟩, allowed'⟩
        · cases read
      · cases read
        exact ⟨fun _ mem => (nomatch mem), allowed⟩
termination_by fuel

theorem sound_of_readPrimary {fuel : Nat} {tokens : List Token}
    {result : Option Expr × List Token} (allowed : Allowed P tokens)
    (read : readPrimary fuel tokens = some result) : Sound P result := by
  cases fuel with
  | zero => cases read
  | succ fuel =>
      unfold readPrimary at read
      split at read
      · cases read
        exact sound_some (.reference _) (Allowed.cons_iff.mp allowed).2
      · simp only [bind, Option.bind_eq_some_iff] at read
        obtain ⟨first, readFirst, read⟩ := read
        have sound := sound_of_readLevel (Allowed.cons_iff.mp allowed).2 readFirst
        split at read
        · cases read
          exact sound_some sound.labelled (Allowed.cons_iff.mp sound.2).2
        · exact sound_of_readSimple (Allowed.cons_iff.mp sound.2).2 read
        · cases read
      · exact sound_of_readSimple allowed read
termination_by fuel

theorem sound_of_readSimple {fuel : Nat} {tokens : List Token} {result : Option Expr × List Token}
    (allowed : Allowed P tokens) (read : readSimple fuel tokens = some result) :
    Sound P result := by
  cases fuel with
  | zero => cases read
  | succ fuel =>
      unfold readSimple at read
      split at read
      · cases read
        exact sound_some (.literal _) (Allowed.cons_iff.mp allowed).2
      · cases read
        exact sound_some (.number _) (Allowed.cons_iff.mp allowed).2
      · cases read
        simp only [Allowed.cons_iff] at allowed
        exact sound_some (.call _ fun _ mem => nomatch mem) allowed.2.2.2
      · simp only [bind, Option.bind_eq_some_iff] at read
        obtain ⟨⟨arguments, behind⟩, readArguments, read⟩ := read
        simp only [Allowed.cons_iff] at allowed
        obtain ⟨each, allowed'⟩ := labelled_of_readArguments allowed.2.2 readArguments
        cases read
        exact sound_some (.call _ each) allowed'
      · cases read
        exact sound_none allowed
termination_by fuel

theorem labelled_of_readArguments {fuel : Nat} {tokens : List Token}
    {result : List Expr × List Token} (allowed : Allowed P tokens)
    (read : readArguments fuel tokens = some result) :
    (∀ a ∈ result.1, a.Labelled P) ∧ Allowed P result.2 := by
  cases fuel with
  | zero => cases read
  | succ fuel =>
      simp only [readArguments, bind, Option.bind_eq_some_iff] at read
      obtain ⟨first, readFirst, read⟩ := read
      have sound := sound_of_readLevel allowed readFirst
      split at read
      · cases read
        exact ⟨by simpa using sound.labelled, (Allowed.cons_iff.mp sound.2).2⟩
      · simp only [Option.bind_eq_some_iff] at read
        obtain ⟨⟨arguments, behind⟩, readMore, read⟩ := read
        obtain ⟨each, allowed'⟩ :=
          labelled_of_readArguments (Allowed.cons_iff.mp sound.2).2 readMore
        cases read
        exact ⟨List.forall_mem_cons.mpr ⟨sound.labelled, each⟩, allowed'⟩
      · cases read
termination_by fuel
end

/-- The prefixes in an expression are those that the scan sees. -/
theorem labelled_of_read? {text : String} {e : Expr} (read : read? text = some (some e)) :
    e.Labelled fun l => Seen (.run []) text.toList l.toList := by
  simp only [read?, bind, Option.bind_eq_some_iff] at read
  obtain ⟨tokens, readTokens, ⟨found, rest⟩, readExpr, read⟩ := read
  have sound := sound_of_readLevel (fun token mem l label => seen_of_tokens? readTokens mem label)
    readExpr
  dsimp only at read
  split at read
  · exact sound.1 e (Option.some.inj read)
  · cases read

/-- The namespace of no other prefix is missed. -/
def Misses {α : Type} (P : String → Prop) (env : Environment) (step : Except Fault α) : Prop :=
  ∀ p, step = .error (.unboundPrefix p) → P p ∧ env.namespaces.find? p = none

section Evaluating

variable {env : Environment} {α β : Type} {step : Except Fault α}

theorem Misses.ok (a : α) : Misses P env (.ok a) := fun _ failed => nomatch failed

theorem Misses.bind {next : α → Except Fault β} (first : Misses P env step)
    (second : ∀ a, Misses P env (next a)) : Misses P env (step >>= next) := by
  intro p failed
  rcases bind_eq_error_iff.mp failed with early | ⟨a, -, late⟩
  · exact first p early
  · exact second a p late

theorem Misses.map (f : α → β) (inner : Misses P env step) : Misses P env (step.map f) := by
  cases step with
  | ok a => exact .ok _
  | error fault => exact fun p failed => inner p (by cases failed; rfl)

theorem Misses.of_ne (other : ∀ p, step ≠ .error (.unboundPrefix p)) : Misses P env step :=
  fun p failed => absurd failed (other p)

theorem Misses.mapM {f : α → Except Fault β} {as : List α} (each : ∀ a ∈ as, Misses P env (f a)) :
    Misses P env (as.mapM f) := by
  induction as with
  | nil => exact .ok []
  | cons a as ih =>
      obtain ⟨first, later⟩ := List.forall_mem_cons.mp each
      rw [List.mapM_cons]
      exact first.bind fun b => (ih later).bind fun bs => .ok _

theorem Misses.filterM {f : α → Except Fault Bool} {as : List α}
    (each : ∀ a ∈ as, Misses P env (f a)) : Misses P env (as.filterM f) := by
  have steps (as acc : List α) (each : ∀ a ∈ as, Misses P env (f a)) :
      Misses P env (as.filterAuxM f acc) := by
    induction as generalizing acc with
    | nil => exact .ok acc
    | cons a as ih =>
        obtain ⟨first, later⟩ := List.forall_mem_cons.mp each
        exact first.bind fun b => ih _ later
  exact (steps as [] each).bind fun _ => .ok _

theorem misses_nodes? (value : Value) : Misses P env value.nodes? := by
  refine .of_ne fun p failed => ?_
  cases value <;> cases failed

theorem misses_operate (t : Tree) (op : BinaryOp) (a b : Value) :
    Misses P env (operate t op a b) := by
  unfold operate
  split
  · exact .ok _
  · exact .ok _
  · exact (misses_nodes? a).bind fun _ => (misses_nodes? b).bind fun _ => .ok _
  · exact .ok _
  · exact .ok _
  · split <;> exact .ok _

theorem misses_callFunction (t : Tree) (at_ : Context) (name : String) (arguments : List Value) :
    Misses P env (callFunction t at_ name arguments) := by
  have wrongCount : Misses P env (.error (.argumentCount name) : Except Fault Value) :=
    .of_ne fun _ failed => nomatch failed
  have unknown : Misses P env (.error (.unknownFunction ⟨none, name⟩) : Except Fault Value) :=
    .of_ne fun _ failed => nomatch failed
  unfold callFunction
  dsimp only
  split <;> first
    | exact unknown
    | split <;> first
      | exact .ok _
      | exact wrongCount
      | exact (misses_nodes? _).map _

theorem misses_nameAccepted {test : QName} (name : XmlName)
    (labelled : ∀ l, test.label = some l → P l) : Misses P env (nameAccepted env test name) := by
  intro p failed
  unfold nameAccepted at failed
  dsimp only at failed
  split at failed
  · rename_i l label
    split at failed
    · cases failed
    · rename_i unbound
      cases failed
      exact ⟨labelled p label, unbound⟩
  · cases failed

theorem misses_accepted {axis : Axis} {test : NodeTest} (n : Nat)
    (labelled : ∀ l, test.label? = some l → P l) : Misses P env (accepted env axis test n) := by
  unfold accepted
  dsimp only
  split
  · exact .ok _
  · exact .ok _
  · exact .ok _
  · exact .ok _
  · split
    · split
      · exact misses_nameAccepted _ labelled
      · exact .ok _
    · exact .ok _

theorem misses_keep {condition : Context → Except Fault Value} {nodes : List Nat}
    (each : ∀ at_, Misses P env (condition at_)) : Misses P env (keep condition nodes) := by
  refine Misses.bind (.filterM fun entry _ => ?_) fun _ => .ok _
  exact (each _).bind fun _ => .ok _

theorem misses_evalAll {es : List Expr} {at_ : Context}
    (each : ∀ e ∈ es, Misses P env (eval env e at_)) : Misses P env (evalAll env es at_) := by
  induction es with
  | nil =>
      rw [evalAll]
      exact .ok _
  | cons e es ih =>
      obtain ⟨first, later⟩ := List.forall_mem_cons.mp each
      rw [evalAll]
      exact first.bind fun _ => (ih later).bind fun _ => .ok _

theorem misses_keepAll {conditions : List Expr} {nodes : List Nat}
    (each : ∀ c ∈ conditions, ∀ at_, Misses P env (eval env c at_)) :
    Misses P env (keepAll env conditions nodes) := by
  induction conditions generalizing nodes with
  | nil =>
      rw [keepAll]
      exact .ok _
  | cons c conditions ih =>
      obtain ⟨first, later⟩ := List.forall_mem_cons.mp each
      rw [keepAll]
      exact (misses_keep first).bind fun _ => ih later

theorem misses_evalSteps {steps : List Step} {nodes : List Nat}
    (tests : ∀ step ∈ steps, ∀ l, step.2.1.label? = some l → P l)
    (conditions : ∀ step ∈ steps, ∀ c ∈ step.2.2, ∀ at_, Misses P env (eval env c at_)) :
    Misses P env (evalSteps env steps nodes) := by
  induction steps generalizing nodes with
  | nil =>
      rw [evalSteps]
      exact .ok _
  | cons step steps ih =>
      obtain ⟨axis, test, inner⟩ := step
      obtain ⟨test, laterTests⟩ := List.forall_mem_cons.mp tests
      obtain ⟨inner, laterConditions⟩ := List.forall_mem_cons.mp conditions
      rw [evalSteps]
      refine Misses.bind (.mapM fun n _ => ?_) fun _ => ih laterTests laterConditions
      exact Misses.bind (.filterM fun n _ => misses_accepted n test) fun _ => misses_keepAll inner

/-- An evaluation misses no other prefixes than those of the name tests. -/
theorem misses_eval {e : Expr} (labelled : e.Labelled P) (at_ : Context) :
    Misses P env (eval env e at_) := by
  induction labelled generalizing at_ with
  | root | context | literal s | number x =>
      rw [eval]
      exact .ok _
  | reference name =>
      rw [eval]
      exact .of_ne fun p failed => nomatch failed
  | call name each ih =>
      rw [eval]
      refine (misses_evalAll fun a mem => ih a mem at_).bind fun values => ?_
      split
      · exact .of_ne fun p failed => nomatch failed
      · exact misses_callFunction _ _ _ _
  | binary op left right ihLeft ihRight =>
      rw [eval]
      refine (ihLeft at_).bind fun a => ?_
      split
      · exact .ok _
      · split
        · exact .ok _
        · exact (ihRight at_).bind fun b => misses_operate _ _ _ _
  | negate inner ih =>
      rw [eval]
      exact (ih at_).bind fun _ => .ok _
  | path inner tests conditions ih ihConditions =>
      rw [eval]
      exact (ih at_).bind fun value => (misses_nodes? value).bind fun nodes =>
        (misses_evalSteps tests ihConditions).bind fun _ => .ok _
  | filter inner outer ih ihOuter =>
      rw [eval]
      exact (ih at_).bind fun value => (misses_nodes? value).bind fun nodes =>
        (misses_keep ihOuter).bind fun _ => .ok _

end Evaluating

end Exchange.XPath
