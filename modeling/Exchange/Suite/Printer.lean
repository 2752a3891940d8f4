import Exchange.Suite.Basic

/-! # Suites as JSON

A suite as the JSON value that stands for it. What has its default is left out, but for whether
letter case counts. The members of an object are in the order of their names in a value, and in the
order of the fields where a suite is written straight to a text.
-/

namespace Exchange

/-- An object with one member. -/
def Json.only (name : String) (j : Json) : Json := .object [(name, j)]

/-- An object with members in any order. -/
def Json.ofMembers (members : List (String × Json)) : Json := .object (Table.ofList members)

/-- A number; what is not finite is null. -/
def Json.ofFloat (x : Float) : Json := if x.isFinite then .number (.float x) else .null

/-- Some strings. -/
def Json.ofTexts (texts : List String) : Json := .array (texts.map .string)

/-- What a text check asks, as JSON. -/
def TextMatcher.toJson : TextMatcher → Json
  | compare .equals s => .only "equals" (.string s)
  | compare .contains s => .only "contains" (.string s)
  | compare .startsWith s => .only "startsWith" (.string s)
  | compare .endsWith s => .only "endsWith" (.string s)
  | pattern p => .only "matches" (.string p)
  | presence b => .only "exists" (.bool b)

/-- Options as JSON. -/
def TextOptions.toJson (o : TextOptions) : Json :=
  .ofMembers (("caseSensitive", .bool o.caseSensitive) ::
    if o.negated then [("not", .bool true)] else [])

/-- A text check as JSON. -/
def TextCheck.toJson (c : TextCheck) : Json :=
  .ofMembers [("matcher", c.matcher.toJson), ("options", c.options.toJson)]

/-- A query check as JSON. -/
def QueryCheck.toJson : QueryCheck → Json
  | present b => .only "exists" (.bool b)
  | nodeCount n => .only "nodeCount" (.number (.int n))
  | text check => .only "string" check.toJson
  | number x => .only "number" (.ofFloat x)
  | boolean b => .only "boolean" (.bool b)
  | value j => .only "value" j

namespace Expectation

/-- The fields of an expectation that are written. -/
def members : Expectation → List (String × Json)
  | status code => [("code", .number (.int code))]
  | statusReason check => [("check", check.toJson)]
  | content check => [("check", check.toJson)]
  | contentType value => [("value", .string value)]
  | encoding value => [("value", .string value)]
  | header name check => [("name", .string name), ("check", check.toJson)]
  | cookie name check => [("name", .string name), ("check", check.toJson)]
  | jsonPath expression check =>
    [("expression", .string expression), ("check", check.toJson)]
  | xpath expression namespaces check =>
    ("expression", .string expression) ::
      (if namespaces.isEmpty then []
        else [("namespaces", .object (namespaces.map fun (p, uri) => (p, .string uri)))]) ++
      [("check", check.toJson)]
  | redirectedUrl url => [("url", .string url)]
  | forwardedUrl url => [("url", .string url)]
  | viewName check => [("check", check.toJson)]
  | modelAttributeExists names => [("names", .ofTexts names)]
  | flashAttributeExists names => [("names", .ofTexts names)]
  | handlerType typeName => [("typeName", .string typeName)]
  | handlerMethod declaringType name =>
    (match declaringType with
      | some t => [("declaringType", .string t)]
      | none => []) ++ [("name", .string name)]

/-- An expectation as JSON. -/
def toJson (e : Expectation) : Json :=
  .ofMembers ((kindField, .string e.kind.name) :: e.members)

/-- An expectation as it is written, its kind first and then its fields. -/
def inOrder (e : Expectation) : Json := .object ((kindField, .string e.kind.name) :: e.members)

end Expectation

/-- A suite as JSON. -/
def Suite.toJson (s : Suite) : Json :=
  .ofMembers ((match s.name with
    | some name => [("name", .string name)]
    | none => []) ++ [("expectations", .array (s.expectations.map Expectation.toJson))])

/-- A suite as it is written, its name first and then its expectations. -/
def Suite.inOrder (s : Suite) : Json :=
  .object ((match s.name with
    | some name => [("name", .string name)]
    | none => []) ++ [("expectations", .array (s.expectations.map Expectation.inOrder))])

end Exchange
