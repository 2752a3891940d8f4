import Exchange.JsonPath.Definite
import Exchange.JsonPath.Reader
import Exchange.JsonPath.Select
import Exchange.Query.Engine

/-! # JSON path queries

JSON paths as queries on JSON documents. Namespaces mean nothing here. A single null counts as
absent, and where one value is asked for, several matches are a fault.
-/

namespace Exchange

namespace Json

/-- A value as a text: a string itself, of anything else its JSON text. -/
def plainText : Json → String
  | .string s => s
  | j => j.text

/-- Is the value null? -/
def isNull : Json → Bool
  | .null => true
  | _ => false

end Json

instance : Query.IsNode Json where
  text := Json.plainText
  itemCount?
    | .array items => some items.length
    | _ => none

/-- A query in JSON path. -/
structure JsonPathQuery where
  expression : Query.Expression
  path : JsonPath.Path
  definite : Bool

namespace JsonPath

open Query (Mode Found)

/-- Compile an expression. -/
def compile (e : Query.Expression) : Except Failure JsonPathQuery :=
  match read? e.text with
  | some path => .ok ⟨e, path, isDefinite e.text⟩
  | none => .error (.compile .jsonPath e.text .malformed)

/-- Matches in words, for a message about their kind. -/
def matchesInWords : List Json → String
  | [j] => j.text
  | js => shown js.length ++ " values"

/-- The number that a value stands for. -/
def numberOf? (j : Json) : Option Float :=
  let x? := match j with
    | .number n => some n.toFloat
    | .string s => Number.readFloat? (Text.trim s)
    | _ => none
  x?.filter fun x => !x.isNaN

/-- The truth value that a value stands for. -/
def booleanOf? : Json → Option Bool
  | .bool b => some b
  | .string s => Query.readBoolean? s
  | _ => none

/-- A single match as what a mode asks for. -/
def coerce (e : Query.Expression) (j : Json) (mode : Mode) : Except Failure (Found Json) :=
  match mode with
  | .singleNode | .nodeSet => .ok (.node j)
  | .string => .ok (.string j.plainText)
  | .number => match numberOf? j with
    | some x => .ok (.number x)
    | none => .error (.coercion e.text j.text mode)
  | .boolean => match booleanOf? j with
    | some b => .ok (.boolean b)
    | none => .error (.coercion e.text j.text mode)

/-- A single match, where null counts as absent. -/
def coerceSingle (e : Query.Expression) (j : Json) (mode : Mode) : Except Failure (Found Json) :=
  if j.isNull then .ok .absent else coerce e j mode

/-- Evaluate a query. -/
def evaluate (q : JsonPathQuery) (document : Json) (mode : Mode) : Except Failure (Found Json) :=
  let found := select q.path document
  if mode = .nodeSet then .ok (.nodes found)
  else match found with
    | [] => .ok .absent
    | [j] => coerceSingle q.expression j mode
    | j :: _ =>
      if mode = .singleNode then coerceSingle q.expression j mode
      else .error (.coercion q.expression.text (matchesInWords found) mode)

/-- Read a content as a document. -/
def readDocument (content : String) : Except Failure Json :=
  match Json.read? content with
  | some j => .ok j
  | none => .error (.content .json)

end JsonPath

instance : Query.Engine JsonPathQuery Json Json where
  language := .jsonPath
  compile := JsonPath.compile
  expression := JsonPathQuery.expression
  read := JsonPath.readDocument
  evaluate := JsonPath.evaluate
  naturalMode q := if q.definite then .singleNode else .nodeSet

end Exchange
