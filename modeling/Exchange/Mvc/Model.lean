import Exchange.Json.Value
import Exchange.Text.Shown

/-! # Models, views and binding errors

The model that a handler made and the view that it chose, with the errors of binding request data
to model attributes, and the steps by which all this is built.
-/

namespace Exchange

/-- The view of an exchange. -/
inductive View where
  /-- A view known by its name. -/
  | name (name : String)
  /-- A view object of a type. -/
  | object (type : String)
  deriving Repr, DecidableEq

/-- The text of a view. -/
def View.text : View → String
  | name n => n
  | object t => "[" ++ t ++ "]"

/-- An error of binding one field, or of the whole attribute. -/
inductive BindingError where
  | field (field message : String)
  | general (message : String)
  deriving Repr, DecidableEq

/-- The result of binding request data to an attribute. -/
structure BindingResult where
  fieldErrors : List (String × String) := []
  generalErrors : List String := []
  deriving Repr, DecidableEq

namespace BindingResult

/-- Add an error. -/
def add (r : BindingResult) : BindingError → BindingResult
  | .field field message => { r with fieldErrors := r.fieldErrors ++ [(field, message)] }
  | .general message => { r with generalErrors := r.generalErrors ++ [message] }

/-- The result with some errors. -/
def ofErrors (errors : List BindingError) : BindingResult := errors.foldl add {}

/-- The number of errors. -/
def errorCount (r : BindingResult) : Nat := r.fieldErrors.length + r.generalErrors.length

/-- Is there an error? -/
def hasErrors (r : BindingResult) : Bool := 0 < r.errorCount

/-- Is there an error of a field? -/
def hasFieldErrors (r : BindingResult) (field : String) : Bool :=
  r.fieldErrors.any fun (f, _) => f == field

/-- The errors in brackets, those of the whole attribute first. -/
def text (r : BindingResult) : String :=
  Text.bracketed
    (r.generalErrors ++ r.fieldErrors.map fun (field, message) => field ++ ": " ++ message)

end BindingResult

/-- A model with its view and binding results. -/
structure ModelAndView where
  view : Option View := none
  model : Table Json := []
  bindings : Table BindingResult := []

namespace ModelAndView

/-- The name of the view, where it is known by one. -/
def viewName? (m : ModelAndView) : Option String :=
  match m.view with
  | some (.name n) => some n
  | _ => none

/-- The number of binding errors. -/
def errorCount (m : ModelAndView) : Nat :=
  m.bindings.foldl (fun n (_, r) => n + r.errorCount) 0

/-- A step in building a model and view. -/
inductive Step where
  | view (view : View)
  | attribute (name : String) (value : Json)
  | binding (name : String) (result : BindingResult)

/-- Take a step. -/
def apply (m : ModelAndView) : Step → ModelAndView
  | .view view => { m with view := some view }
  | .attribute name value => { m with model := m.model.insert name value }
  | .binding name result => { m with bindings := m.bindings.insert name result }

/-- The model and view that some steps build. -/
def build (steps : List Step) : ModelAndView := steps.foldl apply {}

end ModelAndView

end Exchange
