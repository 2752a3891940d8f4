import Exchange.Http.Response
import Exchange.Http.Status
import Exchange.Matcher.Check

/-! # Expectations about the status

The status code, its series, and the reason that was given with it.
-/

namespace Exchange

/-- An expectation about the status of a response. -/
inductive StatusMatcher where
  | code (code : Nat)
  | codeSatisfies (p : Predicate Nat)
  | series (series : StatusSeries)
  | reason (text : String)
  | reasonSatisfies (p : Predicate String)
  | reasonPasses (check : TextPredicate)

namespace StatusMatcher

/-- Does the expectation hold of a response? A check of the reason may accept that there is none. -/
def rule (r : Response) : StatusMatcher → Ruling
  | code c => Ruling.equal "Status" c r.status
  | codeSatisfies p => Ruling.satisfies "Status" p r.status
  | series s =>
    let actual := StatusSeries.of r.status
    if actual = s then Ruling.pass
    else Ruling.mismatch ("Range for response status value " ++ shown r.status) s.words actual.words
  | reason text => do
    let actual ← Ruling.needed "Status reason" r.reason
    Ruling.equal "Status reason" text actual
  | reasonSatisfies p => do
    let actual ← Ruling.needed "Status reason" r.reason
    Ruling.satisfies "Status reason" p actual
  | reasonPasses check =>
    if r.reason.isNone && !check.acceptsOptional none then
      .error (.assertion (.notSet "Status reason"))
    else Ruling.passes "Status reason" check r.reason

end StatusMatcher

end Exchange
