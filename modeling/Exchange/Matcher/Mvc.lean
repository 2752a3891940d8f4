import Exchange.Matcher.Check
import Exchange.Mvc.Handler
import Exchange.Mvc.Model

/-! # Expectations about handler, model, view and flash attributes

The parts of an outcome that may be missing: expectations about the handler, the model and the view
need them, while missing flash attributes count as none.
-/

namespace Exchange

/-- An expectation about the handler. -/
inductive HandlerMatcher where
  | present
  | absent
  | type (type : String)
  | methodName (name : String)
  | methodNameSatisfies (p : Predicate String)
  | method (type name : String)

namespace HandlerMatcher

/-- There has to be a handler. -/
def needed : Option Handler → Except Failure Handler
  | some h => .ok h
  | none => Ruling.fail "No handler"

/-- The handler has to be a method. -/
def neededMethod (handler : Option Handler) : Except Failure HandlerMethod := do
  let h ← needed handler
  match h.method? with
  | some m => .ok m
  | none => Ruling.fail ("Not a handler method: " ++ h.type)

/-- Does the expectation hold of a handler? -/
def rule (handler : Option Handler) : HandlerMatcher → Ruling
  | present => (needed handler).map fun _ => ()
  | absent =>
    match handler with
    | some h => Ruling.fail ("Expected no handler but found: " ++ h.type)
    | none => Ruling.pass
  | type t => do
    let h ← needed handler
    Ruling.equal "Handler type" t h.type
  | methodName n => do
    let m ← neededMethod handler
    Ruling.equal "Handler method" n m.name
  | methodNameSatisfies p => do
    let m ← neededMethod handler
    Ruling.satisfies "Handler method" p m.name
  | method t n => do
    let m ← neededMethod handler
    if m.declaringType = t ∧ m.name = n then Ruling.pass
    else Ruling.mismatch "Handler method" (t ++ "::" ++ n) (m.declaringType ++ "::" ++ m.name)

end HandlerMatcher

/-- The attribute of a name, where a null attribute counts as none. -/
def presentAttribute? (name : String) (attributes : Table Json) : Option Json :=
  (attributes.find? name).filter fun j => j != .null

/-- The attribute of a name, null if there is none. -/
def attributeOrNull (name : String) (attributes : Table Json) : Json :=
  (attributes.find? name).getD .null

/-- There has to be a model and view. -/
def neededModelAndView : Option ModelAndView → Except Failure ModelAndView
  | some m => .ok m
  | none => Ruling.fail "No ModelAndView found"

/-- An expectation about the model and the binding results. -/
inductive ModelMatcher where
  | attributeEquals (name : String) (value : Json)
  | attributeSatisfies (name : String) (p : Predicate Json)
  | attributesExist (names : List String)
  | attributesDoNotExist (names : List String)
  | attributesHaveErrors (names : List String)
  | attributesHaveNoErrors (names : List String)
  | attributeHasFieldErrors (name : String) (fields : List String)
  | attributeErrorCount (name : String) (n : Nat)
  | hasErrors
  | hasNoErrors
  | errorCount (n : Nat)
  | size (n : Nat)

namespace ModelMatcher

/-- How an attribute is called in failures. -/
def label (name : String) : String := "Model attribute '" ++ name ++ "'"

/-- There has to be a binding result for an attribute. -/
def neededResult (m : ModelAndView) (name : String) : Except Failure BindingResult :=
  match m.bindings.find? name with
  | some result => .ok result
  | none => Ruling.fail ("No BindingResult for attribute: " ++ name)

/-- An attribute has errors. -/
def withErrors (m : ModelAndView) (name : String) : Ruling := do
  let result ← neededResult m name
  Ruling.require result.hasErrors ("No errors for attribute '" ++ name ++ "'")

/-- An attribute has a binding result without errors. -/
def withoutErrors (m : ModelAndView) (name : String) : Ruling := do
  let result ← neededResult m name
  Ruling.require (!result.hasErrors)
    ("Unexpected errors for attribute '" ++ name ++ "': " ++ result.text)

/-- Does the expectation hold of a model and view that is there? -/
def ruleOf (m : ModelAndView) : ModelMatcher → Ruling
  | attributeEquals name value =>
    Ruling.equalJson (label name) value (attributeOrNull name m.model)
  | attributeSatisfies name p =>
    Ruling.satisfies (label name) p (attributeOrNull name m.model)
  | attributesExist names => names |> Ruling.all fun name =>
    Ruling.require (presentAttribute? name m.model).isSome (label name ++ " does not exist")
  | attributesDoNotExist names => names |> Ruling.all fun name =>
    Ruling.require (presentAttribute? name m.model).isNone (label name ++ " exists")
  | attributesHaveErrors names => names |> Ruling.all (withErrors m)
  | attributesHaveNoErrors names => names |> Ruling.all (withoutErrors m)
  | attributeHasFieldErrors name fields => do
    let result ← neededResult m name
    withErrors m name
    fields |> Ruling.all fun field =>
      Ruling.require (result.hasFieldErrors field)
        ("No errors for field '" ++ field ++ "' of attribute '" ++ name ++ "'")
  | attributeErrorCount name n => do
    let result ← neededResult m name
    Ruling.equal ("Binding/validation error count for attribute '" ++ name ++ "'") n
      result.errorCount
  | hasErrors => Ruling.require (0 < m.errorCount) "Expected binding/validation errors"
  | hasNoErrors =>
    match List.find? (fun (_, result) => result.hasErrors) m.bindings with
    | some (name, result) =>
      Ruling.fail ("Unexpected binding/validation errors for attribute '" ++ name ++ "': " ++
        result.text)
    | none => Ruling.pass
  | errorCount n => Ruling.equal "Binding/validation error count" n m.errorCount
  | size n => Ruling.equal "Model size" n m.model.length

/-- Does the expectation hold of a model and view, which has to be there? -/
def rule (m : Option ModelAndView) (matcher : ModelMatcher) : Ruling := do
  let m ← neededModelAndView m
  matcher.ruleOf m

end ModelMatcher

/-- An expectation about the view. -/
inductive ViewMatcher where
  | name (name : String)
  | nameSatisfies (p : Predicate String)

/-- Does the expectation hold of a model and view, which has to be there? Without a view, a
    predicate is asked about the empty text. -/
def ViewMatcher.rule (m : Option ModelAndView) (matcher : ViewMatcher) : Ruling := do
  let m ← neededModelAndView m
  let actual := m.view.map View.text
  match matcher with
  | .name n => Ruling.equalOptional "View name" n actual
  | .nameSatisfies p => Ruling.satisfies "View name" p (actual.getD "")

/-- An expectation about the flash attributes. -/
inductive FlashMatcher where
  | attributeEquals (name : String) (value : Json)
  | attributeSatisfies (name : String) (p : Predicate Json)
  | attributesExist (names : List String)
  | count (n : Nat)

namespace FlashMatcher

/-- How a flash attribute is called in failures. -/
def label (name : String) : String := "Flash attribute '" ++ name ++ "'"

/-- Does the expectation hold of the flash attributes? -/
def rule (flash : Option (Table Json)) (matcher : FlashMatcher) : Ruling :=
  let attributes := flash.getD []
  match matcher with
  | attributeEquals name value =>
    Ruling.equalJson (label name) value (attributeOrNull name attributes)
  | attributeSatisfies name p =>
    Ruling.satisfies (label name) p (attributeOrNull name attributes)
  | attributesExist names => names |> Ruling.all fun name =>
    Ruling.require (presentAttribute? name attributes).isSome (label name ++ " does not exist")
  | count n => Ruling.equal "FlashMap size" n attributes.length

end FlashMatcher

end Exchange
