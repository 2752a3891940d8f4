import Exchange.Json.Value
import Exchange.Predicate.TextCheck

/-! # Suites of expectations

A suite is a list of expectations as they are written down, under a name that says nothing more.
Every expectation is of one of sixteen kinds, and its fields have the names and the order in which
files give them.
-/

namespace Exchange

/-- What is asked of what a query finds. -/
inductive QueryCheck where
  | present (expected : Bool)
  | nodeCount (n : Nat)
  | text (check : TextCheck)
  | number (x : Float)
  | boolean (b : Bool)
  /-- The JSON value that a path selects. -/
  | value (j : Json)

/-- An expectation as it is written down. -/
inductive Expectation where
  | status (code : Nat)
  | statusReason (check : TextCheck)
  | content (check : TextCheck)
  | contentType (value : String)
  | encoding (value : String)
  | header (name : String) (check : TextCheck)
  | cookie (name : String) (check : TextCheck)
  | jsonPath (expression : String) (check : QueryCheck)
  | xpath (expression : String) (namespaces : Table String) (check : QueryCheck)
  | redirectedUrl (url : String)
  | forwardedUrl (url : String)
  | viewName (check : TextCheck)
  | modelAttributeExists (names : List String)
  | flashAttributeExists (names : List String)
  | handlerType (typeName : String)
  | handlerMethod (declaringType : Option String) (name : String)

/-- A suite of expectations. -/
structure Suite where
  name : Option String := none
  expectations : List Expectation := []

namespace Expectation

/-- The kinds of expectations. -/
inductive Kind where
  | status
  | statusReason
  | content
  | contentType
  | encoding
  | header
  | cookie
  | jsonPath
  | xpath
  | redirectedUrl
  | forwardedUrl
  | viewName
  | modelAttributeExists
  | flashAttributeExists
  | handlerType
  | handlerMethod
  deriving Repr, DecidableEq

namespace Kind

/-- All kinds. -/
def all : List Kind :=
  [status, statusReason, content, contentType, encoding, header, cookie, jsonPath, xpath,
    redirectedUrl, forwardedUrl, viewName, modelAttributeExists, flashAttributeExists, handlerType,
    handlerMethod]

/-- The name of a kind. -/
def name : Kind → String
  | status => "status"
  | statusReason => "statusReason"
  | content => "content"
  | contentType => "contentType"
  | encoding => "encoding"
  | header => "header"
  | cookie => "cookie"
  | jsonPath => "jsonPath"
  | xpath => "xpath"
  | redirectedUrl => "redirectedUrl"
  | forwardedUrl => "forwardedUrl"
  | viewName => "viewName"
  | modelAttributeExists => "modelAttributeExists"
  | flashAttributeExists => "flashAttributeExists"
  | handlerType => "handlerType"
  | handlerMethod => "handlerMethod"

/-- The kind of a name. -/
def ofName? (s : String) : Option Kind := all.find? fun kind => kind.name == s

/-- The names of the fields of a kind, in order. -/
def fieldNames : Kind → List String
  | status => ["code"]
  | statusReason => ["check"]
  | content => ["check"]
  | contentType => ["value"]
  | encoding => ["value"]
  | header => ["name", "check"]
  | cookie => ["name", "check"]
  | jsonPath => ["expression", "check"]
  | xpath => ["expression", "namespaces", "check"]
  | redirectedUrl => ["url"]
  | forwardedUrl => ["url"]
  | viewName => ["check"]
  | modelAttributeExists => ["names"]
  | flashAttributeExists => ["names"]
  | handlerType => ["typeName"]
  | handlerMethod => ["declaringType", "name"]

/-- Every kind is found by its name. -/
theorem ofName?_name (kind : Kind) : ofName? kind.name = some kind := by
  cases kind <;> decide

end Kind

/-- The kind of an expectation. -/
def kind : Expectation → Kind
  | status _ => .status
  | statusReason _ => .statusReason
  | content _ => .content
  | contentType _ => .contentType
  | encoding _ => .encoding
  | header _ _ => .header
  | cookie _ _ => .cookie
  | jsonPath _ _ => .jsonPath
  | xpath _ _ _ => .xpath
  | redirectedUrl _ => .redirectedUrl
  | forwardedUrl _ => .forwardedUrl
  | viewName _ => .viewName
  | modelAttributeExists _ => .modelAttributeExists
  | flashAttributeExists _ => .flashAttributeExists
  | handlerType _ => .handlerType
  | handlerMethod _ _ => .handlerMethod

end Expectation

/-! ## Names of alternatives -/

/-- The names of what a text check can ask, in order. -/
def TextMatcher.names : List String :=
  ["equals", "contains", "startsWith", "endsWith", "matches", "exists"]

/-- The names of the fields of a text check. -/
def TextCheck.fieldNames : List String := ["matcher", "options"]

/-- The names of the options of a text check. -/
def TextOptions.fieldNames : List String := ["caseSensitive", "not"]

/-- The names of what can be asked of what a query finds, in order. -/
def QueryCheck.names : List String :=
  ["exists", "nodeCount", "string", "number", "boolean", "value"]

/-- The names of the fields of a suite. -/
def Suite.fieldNames : List String := ["name", "expectations"]

/-- The field of an expectation that names its kind. -/
def Expectation.kindField : String := "kind"

end Exchange
