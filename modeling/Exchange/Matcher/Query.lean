import Exchange.Matcher.Content

/-! # Expectations about what a query finds

Questions that can be asked of a query in either language, and questions about the JSON value that a
JSON path selects: the single match of a definite path, or the array of all matches.
-/

namespace Exchange

open Query (Engine Mode Found)

/-- A question about what a query finds. -/
inductive Question (N : Type) where
  /-- The first node, or its absence, satisfies a predicate. -/
  | node (p : Predicate (Option N))
  | present
  | absent
  | count (n : Nat)
  | countSatisfies (p : Predicate Nat)
  | text (text : String)
  | textSatisfies (p : Predicate String)
  | number (x : Float)
  | numberSatisfies (p : Predicate Float)
  | boolean (b : Bool)

namespace Question

variable {Q D N : Type} [Engine Q D N]

/-- How a query is called in failures. -/
def label (q : Q) : String :=
  (Engine.language (Q := Q)).name ++ " " ++ (Engine.expression q).text

/-- What a query finds in the content of a response. -/
def find (q : Q) (r : Response) (mode : Mode) : Except Failure (Found N) := do
  let content ← ContentMatcher.contentOf r
  let document ← Engine.read (Q := Q) content
  Engine.evaluate q document mode

/-- What a query finds, where finding nothing is a failure. -/
def findPresent (q : Q) (r : Response) (mode : Mode) : Except Failure (Found N) := do
  let found ← find q r mode
  match found with
  | .absent => do
    Query.mustExist (Engine.language (Q := Q)) (Engine.expression q).text found
    .ok found
  | _ => .ok found

/-- Does a query on the content of a response answer a question as expected? -/
def rule (q : Q) (r : Response) : Question N → Ruling
  | node p => do
    let found ← find q r .singleNode
    Ruling.satisfies (label q) p found.node?
  | present => do
    let found ← find q r (Engine.naturalMode q)
    Query.mustExist (Engine.language (Q := Q)) (Engine.expression q).text found
  | absent => do
    let found ← find q r (Engine.naturalMode q)
    Query.mustNotExist (Engine.language (Q := Q)) (Engine.expression q).text found
  | count n => do
    let found ← find q r .nodeSet
    Ruling.equal (label q ++ " node count") n found.nodeList.length
  | countSatisfies p => do
    let found ← find q r .nodeSet
    Ruling.satisfies (label q ++ " node count") p found.nodeList.length
  | text s => do
    let found ← findPresent q r .string
    Ruling.equal (label q) s (found.text?.getD "")
  | textSatisfies p => do
    let found ← findPresent q r .string
    Ruling.satisfies (label q) p (found.text?.getD "")
  | number x => do
    let found ← findPresent q r .number
    match found.number? with
    | some actual => Ruling.equal (label q) x actual
    | none => Ruling.fail ("No number at " ++ label q)
  | numberSatisfies p => do
    let found ← findPresent q r .number
    match found.number? with
    | some actual => Ruling.satisfies (label q) p actual
    | none => Ruling.fail ("No number at " ++ label q)
  | boolean b => do
    let found ← findPresent q r .boolean
    match found.boolean? with
    | some actual => Ruling.equal (label q) b actual
    | none => Ruling.fail ("No boolean at " ++ label q)

end Question

/-- A question about the JSON value that a path selects. -/
inductive JsonQuestion where
  | value (expected : Json)
  | satisfies (p : Predicate Json)
  | isArray
  | isObject
  | isEmpty
  | isNotEmpty

namespace Json

/-- Is the value an array? -/
def isArray : Json → Bool
  | .array _ => true
  | _ => false

/-- Is the value an object? -/
def isObject : Json → Bool
  | .object _ => true
  | _ => false

/-- Does the value hold nothing? -/
def isEmpty : Json → Bool
  | .null => true
  | .string s => s == ""
  | .array items => items.isEmpty
  | .object members => members.isEmpty
  | _ => false

end Json

namespace JsonQuestion

/-- How a path is called in failures. -/
def label (q : JsonPathQuery) : String := Question.label q

/-- The one value that some matches amount to where a single value is expected. -/
def single (q : JsonPathQuery) : List Json → Except Failure (Option Json)
  | [] => .ok none
  | [j] => .ok (some j)
  | js =>
    Ruling.fail ("Got a list of values " ++ (Json.array js).text ++
      " instead of the expected single value at " ++ label q)

/-- The value that some matches amount to: none is no value, and otherwise it is the array of them
    unless a single value is expected. -/
def ofMatches (q : JsonPathQuery) (expected : Option Json) (js : List Json) :
    Except Failure (Option Json) :=
  match expected with
  | some e => if e.isArray then .ok (array js) else single q js
  | none => .ok (array js)
where
  /-- The array of some matches, if there are any. -/
  array (js : List Json) : Option Json := if js.isEmpty then none else some (.array js)

/-- The value that a path selects from the content of a response. -/
def select (q : JsonPathQuery) (r : Response) (expected : Option Json) :
    Except Failure (Option Json) := do
  let found ← Question.find q r (Engine.naturalMode q)
  match found with
  | .absent => .ok none
  | .node j => .ok (some j)
  | .nodes js => ofMatches q expected js
  | _ => .error (.evaluation q.expression.text)

/-- A value of a kind is there. -/
def ofKind (q : JsonPathQuery) (kind : String) (test : Json → Bool) : Option Json → Ruling
  | some j =>
    Ruling.require (test j) ("Expected " ++ kind ++ " at " ++ label q ++ " but found: " ++ j.text)
  | none => Ruling.fail ("No value at " ++ label q)

/-- Does a path on the content of a response answer a question as expected? -/
def rule (q : JsonPathQuery) (r : Response) : JsonQuestion → Ruling
  | value expected => do
    match ← select q r (some expected) with
    | none => Ruling.require expected.isNull ("No value at " ++ label q)
    | some actual =>
      if expected.alike actual then Ruling.pass
      else Ruling.mismatch (label q) expected.text actual.text
  | satisfies p => do
    let actual ← select q r none
    Ruling.satisfies (label q) p (actual.getD .null)
  | isArray => do
    ofKind q "an array" Json.isArray (← select q r none)
  | isObject => do
    ofKind q "a map" Json.isObject (← select q r none)
  | isEmpty => do
    let actual ← select q r none
    Ruling.require (actual.all Json.isEmpty)
      ("Expected an empty value at " ++ label q ++ " but found: " ++ (actual.getD .null).text)
  | isNotEmpty => do
    let actual ← select q r none
    Ruling.require (actual.any fun j => !j.isEmpty)
      ("Expected a non-empty value at " ++ label q)

end JsonQuestion

end Exchange
