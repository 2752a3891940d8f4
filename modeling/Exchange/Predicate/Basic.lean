import Exchange.Text.Shown

/-! # Predicates

A predicate is a condition on values together with the words that describe it. Predicates are
built from conditions by negation, conjunction and disjunction; the words follow the structure.
-/

namespace Exchange

/-- A condition on values that can be described. -/
inductive Predicate (α : Type) where
  /-- A condition with its description. -/
  | holds (description : String) (test : α → Bool)
  | not (p : Predicate α)
  /-- All of some predicates. -/
  | allOf (ps : List (Predicate α))
  /-- At least one of some predicates. -/
  | anyOf (ps : List (Predicate α))

namespace Predicate

variable {α : Type}

mutual
/-- Does the value satisfy the predicate? -/
def accepts (a : α) : Predicate α → Bool
  | holds _ test => test a
  | not p => !p.accepts a
  | allOf ps => acceptedByAll a ps
  | anyOf ps => acceptedByAny a ps

/-- Does the value satisfy all of some predicates? -/
def acceptedByAll (a : α) : List (Predicate α) → Bool
  | [] => true
  | p :: rest => p.accepts a && acceptedByAll a rest

/-- Does the value satisfy one of some predicates? -/
def acceptedByAny (a : α) : List (Predicate α) → Bool
  | [] => false
  | p :: rest => p.accepts a || acceptedByAny a rest
end

mutual
/-- The predicate in words. -/
def description : Predicate α → String
  | holds words _ => words
  | not p => "not " ++ p.description
  | allOf ps => "(" ++ " and ".intercalate (descriptions ps) ++ ")"
  | anyOf ps => "(" ++ " or ".intercalate (descriptions ps) ++ ")"

/-- Some predicates in words. -/
def descriptions : List (Predicate α) → List String
  | [] => []
  | p :: rest => p.description :: descriptions rest
end

/-- Both predicates. -/
def and (p q : Predicate α) : Predicate α := allOf [p, q]

/-- Either predicate. -/
def or (p q : Predicate α) : Predicate α := anyOf [p, q]

/-- Every value. -/
def anything : Predicate α := holds "anything" fun _ => true

/-- The values equal to a given one. -/
def equals [BEq α] [Shown α] (expected : α) : Predicate α :=
  holds (shown expected) fun a => a == expected

/-- The values above a bound. -/
def greaterThan [LT α] [DecidableLT α] [Shown α] (bound : α) : Predicate α :=
  holds ("a value greater than " ++ shown bound) fun a => bound < a

/-- The values not below a bound. -/
def atLeast [LE α] [DecidableLE α] [Shown α] (bound : α) : Predicate α :=
  holds ("a value greater than or equal to " ++ shown bound) fun a => bound ≤ a

/-- The values below a bound. -/
def lessThan [LT α] [DecidableLT α] [Shown α] (bound : α) : Predicate α :=
  holds ("a value less than " ++ shown bound) fun a => a < bound

/-- The values not above a bound. -/
def atMost [LE α] [DecidableLE α] [Shown α] (bound : α) : Predicate α :=
  holds ("a value less than or equal to " ++ shown bound) fun a => a ≤ bound

/-- Present values. -/
def present : Predicate (Option α) := holds "a present value" Option.isSome

/-- Absent values. -/
def absent : Predicate (Option α) := holds "no value" Option.isNone

end Predicate

end Exchange
