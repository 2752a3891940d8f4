import Exchange.Http.Response
import Exchange.Matcher.Check
import Exchange.Number.Numeral

/-! # Expectations about header fields

Names are compared without regard to case; where one value is asked for, it is the first.
-/

namespace Exchange

/-- An expectation about the header fields of a name. -/
inductive HeaderMatcher where
  | value (text : String)
  | satisfies (p : Predicate String)
  | passes (check : TextPredicate)
  /-- All values in order. -/
  | values (texts : List String)
  | present
  | absent
  /-- The value is an integer. -/
  | integer (n : Int)

namespace HeaderMatcher

/-- How a header field is called in failures. -/
def label (name : String) : String := "Response header '" ++ name ++ "'"

/-- Does the expectation hold of the header fields of a name? -/
def rule (name : String) (r : Response) : HeaderMatcher → Ruling
  | value text => Ruling.equalOptional (label name) text (r.header? name)
  | satisfies p => do
    let actual ← Ruling.needed (label name) (r.header? name)
    Ruling.satisfies (label name) p actual
  | passes check => Ruling.passes (label name) check (r.header? name)
  | values texts => Ruling.equal (label name) texts (r.headers.values name)
  | present =>
    Ruling.require (r.header? name).isSome ("Response should contain header '" ++ name ++ "'")
  | absent =>
    Ruling.require (r.header? name).isNone ("Response should not contain header '" ++ name ++ "'")
  | integer n => do
    let raw ← Ruling.needed (label name) (r.header? name)
    match Number.readInt64? (Text.trim raw) with
    | some actual => Ruling.equal (label name) n actual
    | none => Ruling.mismatch (label name) (shown n) (shown raw)

end HeaderMatcher

end Exchange
