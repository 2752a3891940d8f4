import Exchange.Http.Response
import Exchange.Matcher.Check

/-! # Expectations about cookies

Most expectations about a cookie need it to be there; of several cookies of a name the first counts.
-/

namespace Exchange

/-- An expectation about the cookie of a name. -/
inductive CookieMatcher where
  | present
  | absent
  | value (text : String)
  | satisfies (p : Predicate String)
  /-- A check of the value, which may accept that there is no cookie. -/
  | passes (check : TextPredicate)
  | maxAge (seconds : Int)
  | path (text : String)
  | domain (text : String)
  | secure (b : Bool)
  | httpOnly (b : Bool)

namespace CookieMatcher

/-- How a cookie is called in failures. -/
def label (name : String) : String := "Response cookie '" ++ name ++ "'"

/-- The cookie of a name has to be there. -/
def needed (name : String) (r : Response) : Except Failure Cookie :=
  match r.cookie? name with
  | some c => .ok c
  | none => Ruling.fail ("No cookie with name '" ++ name ++ "'")

/-- Does the expectation hold of the cookie of a name? -/
def rule (name : String) (r : Response) : CookieMatcher → Ruling
  | present => (needed name r).map fun _ => ()
  | absent =>
    Ruling.require (r.cookie? name).isNone ("Unexpected cookie with name '" ++ name ++ "'")
  | value text => do
    let c ← needed name r
    Ruling.equal (label name) text c.value
  | satisfies p => do
    let c ← needed name r
    Ruling.satisfies (label name) p c.value
  | passes check => Ruling.passes (label name) check ((r.cookie? name).map Cookie.value)
  | maxAge seconds => do
    let c ← needed name r
    match c.maxAge with
    | some actual => Ruling.equal (label name ++ " max age") seconds actual
    | none =>
      Ruling.fail
        (label name ++ " max age: expected " ++ shown seconds ++ " but was a session cookie")
  | path text => do
    let c ← needed name r
    Ruling.equalOptional (label name ++ " path") text c.path
  | domain text => do
    let c ← needed name r
    Ruling.equalOptional (label name ++ " domain") text c.domain
  | secure b => do
    let c ← needed name r
    Ruling.equal (label name ++ " secure") b c.secure
  | httpOnly b => do
    let c ← needed name r
    Ruling.equal (label name ++ " httpOnly") b c.httpOnly

end CookieMatcher

end Exchange
