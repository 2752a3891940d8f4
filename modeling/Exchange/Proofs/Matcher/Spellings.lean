import Mathlib
import Exchange.Proofs.Query.Question
import Exchange.Proofs.Suite.TextCheck

/-! # Ways of spelling an equality

That something equals a given value can be said by a matcher of its own, by a matcher with the
predicate of equality, and for some texts by an expectation of a suite. Each spelling passes if the
outcome shows a value there and this value is equal, so that they pass together, and none of them
passes where nothing is shown.
-/

namespace Exchange

open Query (Engine Found)

/-- A matcher can be built and passes. -/
def Passes (o : Outcome) (built : Except Failure Matcher) : Prop :=
  ∃ m, built = .ok m ∧ m.verify o = .pass

/-- What has matchers for being equal to a value of a type. -/
inductive Quantity : Type → Type where
  | status : Quantity Nat
  | reason : Quantity String
  | content : Quantity String
  | header (name : String) : Quantity String
  | cookie (name : String) : Quantity String
  | methodName : Quantity String
  | modelAttribute (name : String) : Quantity Json
  | flashAttribute (name : String) : Quantity Json
  | jsonPathCount (e : Query.Expression) : Quantity Nat
  | xpathCount (e : Query.Expression) : Quantity Nat
  | jsonPathText (e : Query.Expression) : Quantity String
  | xpathText (e : Query.Expression) : Quantity String

/-- What has a text check in suites. -/
inductive CheckedText where
  | reason
  | content
  | header (name : String)
  | cookie (name : String)
  | jsonPath (expression : String)
  | xpath (expression : String) (namespaces : Table String)

namespace Quantity

variable {α : Type}

/-- The matcher for being equal to a value. -/
def exactly : Quantity α → α → Except Failure Matcher
  | status, code => .ok (.status (.code code))
  | reason, text => .ok (.status (.reason text))
  | content, text => .ok (.content (.text text))
  | header name, text => .ok (.header name (.value text))
  | cookie name, text => .ok (.cookie name (.value text))
  | methodName, name => .ok (.handler (.methodName name))
  | modelAttribute name, value => .ok (.model (.attributeEquals name value))
  | flashAttribute name, value => .ok (.flash (.attributeEquals name value))
  | jsonPathCount e, n => (JsonPath.compile e).map fun q => .jsonPath q (.count n)
  | xpathCount e, n => (XPath.compile e).map fun q => .xpath q (.count n)
  | jsonPathText e, text => (JsonPath.compile e).map fun q => .jsonPath q (.text text)
  | xpathText e, text => (XPath.compile e).map fun q => .xpath q (.text text)

/-- The matcher with a predicate. -/
def satisfying : Quantity α → Predicate α → Except Failure Matcher
  | status, p => .ok (.status (.codeSatisfies p))
  | reason, p => .ok (.status (.reasonSatisfies p))
  | content, p => .ok (.content (.satisfies p))
  | header name, p => .ok (.header name (.satisfies p))
  | cookie name, p => .ok (.cookie name (.satisfies p))
  | methodName, p => .ok (.handler (.methodNameSatisfies p))
  | modelAttribute name, p => .ok (.model (.attributeSatisfies name p))
  | flashAttribute name, p => .ok (.flash (.attributeSatisfies name p))
  | jsonPathCount e, p => (JsonPath.compile e).map fun q => .jsonPath q (.countSatisfies p)
  | xpathCount e, p => (XPath.compile e).map fun q => .xpath q (.countSatisfies p)
  | jsonPathText e, p => (JsonPath.compile e).map fun q => .jsonPath q (.textSatisfies p)
  | xpathText e, p => (XPath.compile e).map fun q => .xpath q (.textSatisfies p)

/-- The predicate of being equal to a value. -/
def equalTo : Quantity α → α → Predicate α
  | status, code => .equals code
  | modelAttribute _, value | flashAttribute _, value => .equals value
  | jsonPathCount _, n | xpathCount _, n => .equals n
  | reason, text | content, text | header _, text | cookie _, text => .equals text
  | methodName, text | jsonPathText _, text | xpathText _, text => .equals text

/-- The number of nodes that a query finds. -/
def countOf? {Q D N : Type} [Engine Q D N] (o : Outcome) (q : Except Failure Q) : Option Nat :=
  (q >>= fun q => Question.find q o.response .nodeSet).toOption.map (·.nodeList.length)

/-- The text that a query finds. -/
def textOf? {Q D N : Type} [Engine Q D N] (o : Outcome) (q : Except Failure Q) : Option String :=
  (q >>= fun q => Question.findPresent q o.response .string).toOption.map (·.text?.getD "")

/-- The value that an outcome shows, if it does. An attribute that is not there shows as null, where
    attributes can be. -/
def shown? (o : Outcome) : Quantity α → Option α
  | status => some o.response.status
  | reason => o.response.reason
  | content => o.response.content.toOption
  | header name => o.response.header? name
  | cookie name => (o.response.cookie? name).map Cookie.value
  | methodName => (o.handler.bind Handler.method?).map HandlerMethod.name
  | modelAttribute name => o.modelAndView.map fun m => attributeOrNull name m.model
  | flashAttribute name => some (attributeOrNull name (o.flash.getD []))
  | jsonPathCount e => countOf? o (JsonPath.compile e)
  | xpathCount e => countOf? o (XPath.compile e)
  | jsonPathText e => textOf? o (JsonPath.compile e)
  | xpathText e => textOf? o (XPath.compile e)

end Quantity

namespace CheckedText

/-- What is checked. -/
def quantity : CheckedText → Quantity String
  | reason => .reason
  | content => .content
  | header name => .header name
  | cookie name => .cookie name
  | jsonPath expression => .jsonPathText ⟨expression, []⟩
  | xpath expression namespaces => .xpathText ⟨expression, namespaces⟩

/-- The expectation of a suite with a check. -/
def expectation (check : TextCheck) : CheckedText → Expectation
  | reason => .statusReason check
  | content => .content check
  | header name => .header name check
  | cookie name => .cookie name check
  | jsonPath expression => .jsonPath expression (.text check)
  | xpath expression namespaces => .xpath expression namespaces (.text check)

end CheckedText

section Shown

variable {o : Outcome} {label : String}

theorem toOption_needed {α : Type} (a : Option α) : (Ruling.needed label a).toOption = a := by
  cases a <;> rfl

theorem toOption_contentOf (r : Response) :
    (ContentMatcher.contentOf r).toOption = r.content.toOption := by
  rw [ContentMatcher.contentOf]
  cases r.content <;> rfl

theorem toOption_neededCookie (name : String) (r : Response) :
    (CookieMatcher.needed name r).toOption = r.cookie? name := by
  rw [CookieMatcher.needed]
  cases r.cookie? name <;> rfl

theorem toOption_neededMethod (handler : Option Handler) :
    (HandlerMatcher.neededMethod handler).toOption = handler.bind Handler.method? := by
  cases handler with
  | none => rfl
  | some h => cases h <;> rfl

theorem toOption_neededModelAndView (m : Option ModelAndView) :
    (neededModelAndView m).toOption = m := by
  cases m <;> rfl

theorem bind_satisfies_iff {α β : Type} [Shown β] {step : Except Failure α} {f : α → β}
    {p : Predicate β} {found : Option β} (same : step.toOption.map f = found) :
    (step >>= fun a => Ruling.satisfies label p (f a)) = Ruling.pass ↔
      ∃ b, found = some b ∧ p.accepts b = true := by
  subst same
  cases step with
  | error f =>
      constructor
      · intro passed
        cases passed
      · rintro ⟨b, found, -⟩
        cases found
  | ok a =>
      have ruled : Ruling.satisfies label p (f a) = Ruling.pass ↔ p.accepts (f a) = true :=
        Ruling.satisfies_eq_pass_iff
      simpa [bind, Except.bind, Except.toOption] using ruled

theorem passes_ok_iff {m : Matcher} : Passes o (.ok m) ↔ m.verify o = .pass := by
  simp [Passes]

theorem passes_iff_rules {m : Matcher} {ruling : Ruling} (rules : m.verify o = ruling) :
    Passes o (.ok m) ↔ ruling = .pass := by
  rw [passes_ok_iff, rules]

theorem passes_map_congr {Q : Type} {q : Except Failure Q} {f g : Q → Matcher}
    (alike : ∀ q, (f q).verify o = (g q).verify o) : Passes o (q.map f) ↔ Passes o (q.map g) := by
  cases q with
  | error f => rfl
  | ok q => simp only [Except.map, passes_ok_iff, alike]

end Shown

namespace Quantity

variable {α Q D N : Type} [Engine Q D N] {o : Outcome} {q : Except Failure Q} {f : Q → Matcher}

theorem count_passes_iff {p : Predicate Nat}
    (rules : ∀ q, (f q).verify o = Question.rule q o.response (.countSatisfies p)) :
    Passes o (q.map f) ↔ ∃ n, countOf? o q = some n ∧ p.accepts n = true := by
  cases q with
  | error f => simp [Passes, Except.map, countOf?, bind, Except.bind, Except.toOption]
  | ok q =>
      rw [Except.map, passes_ok_iff, rules]
      exact bind_satisfies_iff rfl

theorem text_passes_iff {p : Predicate String}
    (rules : ∀ q, (f q).verify o = Question.rule q o.response (.textSatisfies p)) :
    Passes o (q.map f) ↔ ∃ text, textOf? o q = some text ∧ p.accepts text = true := by
  cases q with
  | error f => simp [Passes, Except.map, textOf?, bind, Except.bind, Except.toOption]
  | ok q =>
      rw [Except.map, passes_ok_iff, rules]
      exact bind_satisfies_iff rfl

theorem satisfying_passes_iff (s : Quantity α) (p : Predicate α) :
    Passes o (s.satisfying p) ↔ ∃ a, s.shown? o = some a ∧ p.accepts a = true := by
  cases s with
  | status =>
      rw [satisfying, passes_ok_iff, Matcher.verify_eq]
      refine Iff.trans Ruling.satisfies_eq_pass_iff ?_
      simp [shown?]
  | reason =>
      rw [satisfying, passes_ok_iff, Matcher.verify_eq]
      exact bind_satisfies_iff (f := id) (by simp [shown?, toOption_needed])
  | content =>
      rw [satisfying, passes_ok_iff, Matcher.verify_eq]
      exact bind_satisfies_iff (f := id) (by simp [shown?, toOption_contentOf])
  | header name =>
      rw [satisfying, passes_ok_iff, Matcher.verify_eq]
      exact bind_satisfies_iff (f := id) (by simp [shown?, toOption_needed])
  | cookie name =>
      rw [satisfying, passes_ok_iff, Matcher.verify_eq]
      exact bind_satisfies_iff (by rw [toOption_neededCookie, shown?])
  | methodName =>
      rw [satisfying, passes_ok_iff, Matcher.verify_eq]
      exact bind_satisfies_iff (by rw [toOption_neededMethod, shown?])
  | modelAttribute name =>
      rw [satisfying, passes_ok_iff, Matcher.verify_eq]
      exact bind_satisfies_iff (by rw [toOption_neededModelAndView, shown?])
  | flashAttribute name =>
      rw [satisfying, passes_ok_iff, Matcher.verify_eq]
      refine Iff.trans Ruling.satisfies_eq_pass_iff ?_
      simp [shown?]
  | jsonPathCount e => exact count_passes_iff fun q => Matcher.verify_eq o _
  | xpathCount e => exact count_passes_iff fun q => Matcher.verify_eq o _
  | jsonPathText e => exact text_passes_iff fun q => Matcher.verify_eq o _
  | xpathText e => exact text_passes_iff fun q => Matcher.verify_eq o _

/-- The rulings that compare texts of JSON values pass with those that ask a predicate; what they
    show where they fail differs. -/
theorem equalJson_eq_pass_iff {label : String} {v actual : Json} :
    Ruling.equalJson label v actual = .pass ↔ Ruling.satisfies label (.equals v) actual = .pass := by
  rw [Ruling.satisfies_eq_pass_iff, Ruling.equalJson_eq_pass_iff]
  rfl

theorem exactly_passes_iff (s : Quantity α) (v : α) :
    Passes o (s.exactly v) ↔ Passes o (s.satisfying (s.equalTo v)) := by
  cases s with
  | status | reason | content | cookie | methodName =>
      rw [exactly, satisfying, equalTo, passes_ok_iff, passes_ok_iff, Matcher.verify_eq,
        Matcher.verify_eq]
      exact Iff.rfl
  | jsonPathCount | jsonPathText | xpathCount | xpathText =>
      refine passes_map_congr fun q => ?_
      rw [Matcher.verify_eq, Matcher.verify_eq]
      rfl
  | header name =>
      rw [exactly, satisfying, equalTo, passes_ok_iff, passes_ok_iff]
      simp only [Matcher.verify_eq, HeaderMatcher.rule]
      -- Without the field the two fail, each in its own words.
      cases o.response.header? name with
      | none =>
          constructor <;>
            · intro passed
              cases passed
      | some text => exact Iff.rfl
  | modelAttribute name =>
      rw [exactly, satisfying, equalTo, passes_ok_iff, passes_ok_iff]
      simp only [Matcher.verify_eq, ModelMatcher.rule]
      cases o.modelAndView with
      | none => exact Iff.rfl
      | some m => exact equalJson_eq_pass_iff
  | flashAttribute name =>
      rw [exactly, satisfying, equalTo, passes_ok_iff, passes_ok_iff, Matcher.verify_eq,
        Matcher.verify_eq]
      exact equalJson_eq_pass_iff

end Quantity

namespace CheckedText

variable {o : Outcome}

/-- The check that a text equals a value, with the options that checks have by default. -/
def equality (v : String) : TextCheck := ⟨.compare .equals v, {}⟩

/-- The compiled check. -/
def compiledEquality (v : String) : TextPredicate := ⟨.compare .equals v, {}⟩

theorem acceptsOptional_iff {v : String} {text : Option String} :
    (compiledEquality v).acceptsOptional text = true ↔ text = some v := by
  cases text <;>
    simp [compiledEquality, TextPredicate.acceptsOptional, CompiledMatcher.answer,
      CompiledMatcher.found, TextOp.holds]

theorem exists_accepted_iff {v : String} {found : Option String} :
    (∃ text, found = some text ∧ (compiledEquality v).toPredicate.accepts text = true) ↔
      found = some v := by
  simp only [TextPredicate.toPredicate, Predicate.accepts, acceptsOptional_iff, Option.some.injEq,
    exists_eq_right]

/-- An expectation with the check passes if the value is shown. -/
theorem expectation_passes_iff (t : CheckedText) (v : String) :
    Passes o (t.expectation (equality v)).compile ↔ t.quantity.shown? o = some v := by
  cases t with
  | reason =>
      refine (passes_iff_rules (Matcher.verify_eq o _)).trans ?_
      exact Subject.reasonPasses_eq_pass_iff.trans acceptsOptional_iff
  | content =>
      refine passes_ok_iff.trans ?_
      simp only [Matcher.verify_eq, ContentMatcher.rule, quantity, Quantity.shown?,
        ← toOption_contentOf]
      cases ContentMatcher.contentOf o.response with
      | error f =>
          constructor <;>
            · intro passed
              cases passed
      | ok content => exact Ruling.passes_eq_pass_iff.trans acceptsOptional_iff
  | header | cookie =>
      refine (passes_iff_rules (Matcher.verify_eq o _)).trans ?_
      exact Ruling.passes_eq_pass_iff.trans acceptsOptional_iff
  | jsonPath expression =>
      have compiled : (expectation (equality v) (jsonPath expression)).compile =
          (JsonPath.compile ⟨expression, []⟩).map fun q =>
            .jsonPath q (.textSatisfies (compiledEquality v).toPredicate) := by
        rw [expectation, Expectation.compile]
        cases JsonPath.compile ⟨expression, []⟩ <;> rfl
      rw [compiled]
      exact (Quantity.text_passes_iff fun q => Matcher.verify_eq o _).trans exists_accepted_iff
  | xpath expression namespaces =>
      have compiled : (expectation (equality v) (xpath expression namespaces)).compile =
          (XPath.compile ⟨expression, namespaces⟩).map fun q =>
            .xpath q (.textSatisfies (compiledEquality v).toPredicate) := by
        rw [expectation, Expectation.compile]
        cases XPath.compile ⟨expression, namespaces⟩ <;> rfl
      rw [compiled]
      exact (Quantity.text_passes_iff fun q => Matcher.verify_eq o _).trans exists_accepted_iff

theorem equalTo_accepts_iff {t : CheckedText} {v text : String} :
    (t.quantity.equalTo v).accepts text = true ↔ text = v := by
  cases t <;> simp [quantity, Quantity.equalTo, Predicate.equals, Predicate.accepts]

end CheckedText

/-- The spellings of an equality agree on every outcome: a matcher of its own passes exactly if
    that with the predicate of equality does, and if the expectation of a suite does, where there is
    one. They all fail where nothing is shown, and where an expression cannot be built. -/
theorem spellings_agree (o : Outcome) :
    (∀ {α : Type} (s : Quantity α) (v : α),
      (Passes o (s.exactly v) ↔ Passes o (s.satisfying (s.equalTo v))) ∧
      (Passes o (s.exactly v) ↔ ∃ a, s.shown? o = some a ∧ (s.equalTo v).accepts a = true)) ∧
    ∀ (t : CheckedText) (v : String),
      Passes o (t.quantity.exactly v) ↔
        Passes o (t.expectation (CheckedText.equality v)).compile := by
  refine ⟨fun s v => ?_, fun t v => ?_⟩
  · have agree := s.exactly_passes_iff (o := o) v
    exact ⟨agree, agree.trans (s.satisfying_passes_iff _)⟩
  · rw [Quantity.exactly_passes_iff, Quantity.satisfying_passes_iff, t.expectation_passes_iff]
    simp only [CheckedText.equalTo_accepts_iff, exists_eq_right]

end Exchange
