import Exchange.Matcher.Basic
import Exchange.Suite.Basic

/-! # Expectations of suites as matchers

Every expectation stands for a matcher; patterns, expressions and media types are read here. A suite
is verified by matchers in its order up to the first that fails.
-/

namespace Exchange

/-- Compile a text check; the failure shows what cannot be compiled. -/
def TextCheck.compile (c : TextCheck) : Except Failure TextPredicate :=
  match c.compile? with
  | some p => .ok p
  | none => .error (.compile .regex (shown c.matcher) .malformed)

namespace QueryCheck

variable {Q D N : Type} [Query.Engine Q D N]

/-- The question that a check asks of a query. Values are asked of JSON paths alone. -/
def compile (q : Q) : QueryCheck → Except Failure (Question N)
  | present true => .ok .present
  | present false => .ok .absent
  | nodeCount n => .ok (.count n)
  | text check => check.compile.map fun p => .textSatisfies p.toPredicate
  | number x => .ok (.number x)
  | boolean b => .ok (.boolean b)
  | value _ =>
    .error (.compile (Query.Engine.language (Q := Q)) (Query.Engine.expression q).text .valueCheck)

end QueryCheck

/-- The matcher that an expectation stands for. -/
def Expectation.compile : Expectation → Except Failure Matcher
  | status code => .ok (.status (.code code))
  | statusReason check => check.compile.map fun p => .status (.reasonPasses p)
  | content check => check.compile.map fun p => .content (.passes p)
  | contentType value => (ContentMatcher.ofType value).map .content
  | encoding value => .ok (.content (.encoding value))
  | header name check => check.compile.map fun p => .header name (.passes p)
  | cookie name check => check.compile.map fun p => .cookie name (.passes p)
  | jsonPath expression check => do
    let q ← JsonPath.compile ⟨expression, []⟩
    match check with
    | .value expected => .ok (.jsonValue q (.value expected))
    | check => (check.compile q).map (.jsonPath q)
  | xpath expression namespaces check => do
    let q ← XPath.compile ⟨expression, namespaces⟩
    (check.compile q).map (.xpath q)
  | redirectedUrl url => .ok (.redirectedUrl url)
  | forwardedUrl url => .ok (.forwardedUrl url)
  | viewName check => check.compile.map fun p => .view (.nameSatisfies p.toPredicate)
  | modelAttributeExists names => .ok (.model (.attributesExist names))
  | flashAttributeExists names => .ok (.flash (.attributesExist names))
  | handlerType typeName => .ok (.handler (.type typeName))
  | handlerMethod (some declaringType) name => .ok (.handler (.method declaringType name))
  | handlerMethod none name => .ok (.handler (.methodName name))

namespace Suite

/-- The matchers of a suite, in order. -/
def compile (s : Suite) : Except Failure (List Matcher) := s.expectations.mapM Expectation.compile

/-- Verify an outcome against a suite. -/
def verify (s : Suite) (o : Outcome) : Ruling := do
  let matchers ← s.compile
  matchers |> Ruling.all (Matcher.verify o)

end Suite

end Exchange
