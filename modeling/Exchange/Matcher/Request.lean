import Exchange.Http.Request
import Exchange.Matcher.Check

/-! # Expectations about the request

Attributes of the request and of the session; one that is not set counts as null.
-/

namespace Exchange

/-- An expectation about the request. -/
inductive RequestMatcher where
  | attributeEquals (name : String) (value : Json)
  | sessionEquals (name : String) (value : Json)

/-- Does the expectation hold of a request? -/
def RequestMatcher.rule (r : Request) : RequestMatcher → Ruling
  | attributeEquals name value =>
    Ruling.equalJson ("Request attribute '" ++ name ++ "'") value
      ((r.attributes.find? name).getD .null)
  | sessionEquals name value =>
    Ruling.equalJson ("Session attribute '" ++ name ++ "'") value
      ((r.session.find? name).getD .null)

end Exchange
