import Exchange.Failure
import Exchange.Json.Printer
import Exchange.Predicate.TextCheck

/-! # Predicates as expectations

A value has to satisfy a predicate, or a text that may be absent has to pass a check; a failure
shows the description of the predicate as what was expected.
-/

namespace Exchange.Ruling

/-- A value satisfies a predicate. -/
def satisfies {α : Type} [Shown α] (label : String) (p : Predicate α) (actual : α) : Ruling :=
  if p.accepts actual then pass else mismatch label p.description (shown actual)

/-- A text that may be absent passes a check. -/
def passes (label : String) (check : TextPredicate) (actual : Option String) : Ruling :=
  if check.acceptsOptional actual then pass
  else mismatch label check.description
    (match actual with
      | some s => shown s
      | none => "<none>")

/-- All of some expectations hold; the first that does not is the failure. -/
def all {α : Type} (rule : α → Ruling) : List α → Ruling
  | [] => pass
  | a :: rest => match rule a with
    | .ok () => all rule rest
    | .error f => .error f

/-- A JSON value equals a given one; the texts of the values are shown. -/
def equalJson (label : String) (expected actual : Json) : Ruling :=
  if actual == expected then pass else mismatch label expected.text actual.text

end Exchange.Ruling
