import Exchange.Http.Body
import Exchange.Http.MediaType
import Exchange.Query.Basic

/-! # Failures

A matcher passes or fails with a cause. `Failure.message` is the only place where causes are put
into words; expectations that do not hold are told from matchers that could not be built or used.
Why a document or an expression is malformed, and why an evaluation has no value, is for its reader
to say and left out: such causes have fixed words here.
-/

namespace Exchange

/-- An expectation that does not hold. -/
inductive Assertion where
  /-- Something was not what was expected. -/
  | mismatch (label expected actual : String)
  /-- Something was not there. -/
  | notSet (label : String)
  | plain (text : String)
  deriving Repr, DecidableEq

/-- The assertion in words. -/
def Assertion.message : Assertion → String
  | mismatch label expected actual =>
    label ++ ": expected " ++ expected ++ " but was " ++ actual
  | notSet label => label ++ " not set"
  | plain text => text

/-- Why the content of a response is not what a matcher reads it as. -/
inductive ContentFault where
  | json
  | xml
  | body (fault : Body.Fault)
  deriving Repr, DecidableEq

namespace ContentFault

/-- What the content was expected to be. -/
def format : ContentFault → String
  | json => "JSON"
  | xml => "XML"
  | body fault => fault.format

/-- The fault in words. What is wrong with a malformed document is not said. -/
def reason : ContentFault → String
  | json => "malformed document"
  | xml => "malformed document"
  | body fault => fault.message

end ContentFault

/-- Why a matcher failed. -/
inductive Failure where
  | assertion (cause : Assertion)
  /-- An expression could not be compiled. -/
  | compile (language : Language) (expression : String) (fault : Query.CompileFault)
  /-- An expression has a value that is not of the kind that was asked for. -/
  | coercion (expression found : String) (mode : Query.Mode)
  /-- An expression has no value at all. -/
  | evaluation (expression : String)
  | content (fault : ContentFault)
  | mediaType (text : String) (fault : MediaType.Fault)
  /-- Something could not be written out. -/
  | output (reason : String)
  /-- An evaluation broke off at a prefix without a namespace. This is no answer: nobody is told of
      it, and nothing that was to follow is done. -/
  | aborted (expression label : String)
  deriving Repr, DecidableEq

namespace Failure

/-- The failure in words. -/
def message : Failure → String
  | assertion cause => cause.message
  | compile language expression fault =>
    "Invalid " ++ language.name ++ " expression '" ++ expression ++ "': " ++ fault.message
  | coercion expression found mode =>
    expression ++ ": cannot evaluate " ++ found ++ " as " ++ mode.words
  | evaluation expression => "Failed to evaluate '" ++ expression ++ "'"
  | content fault => "Response content is not valid " ++ fault.format ++ ": " ++ fault.reason
  | mediaType text fault => "Invalid media type '" ++ text ++ "': " ++ fault.message
  | output reason => "Failed to write result: " ++ reason
  | aborted expression label => "Broke off '" ++ expression ++ "' at the prefix '" ++ label ++ "'"

end Failure

/-- Passing, or failing with a cause. -/
abbrev Ruling := Except Failure Unit

namespace Ruling

/-- The expectation holds. -/
def pass : Ruling := .ok ()

/-- Fail with a message. -/
def fail {α : Type} (text : String) : Except Failure α := .error (.assertion (.plain text))

/-- Fail because something was not what was expected. -/
def mismatch {α : Type} (label expected actual : String) : Except Failure α :=
  .error (.assertion (.mismatch label expected actual))

/-- Fail with a message unless a condition holds. -/
def require (condition : Bool) (text : String) : Ruling :=
  if condition then pass else fail text

/-- Something that has to be there. -/
def needed {α : Type} (label : String) : Option α → Except Failure α
  | some a => .ok a
  | none => .error (.assertion (.notSet label))

/-- Two values are equal. -/
def equal {α : Type} [BEq α] [Shown α] (label : String) (expected actual : α) : Ruling :=
  if actual == expected then pass else mismatch label (shown expected) (shown actual)

/-- A value that may be absent equals a given one. -/
def equalOptional {α : Type} [BEq α] [Shown α] (label : String) (expected : α)
    (actual : Option α) : Ruling :=
  match actual with
  | some a => equal label expected a
  | none => mismatch label (shown expected) "<none>"

end Ruling

end Exchange
