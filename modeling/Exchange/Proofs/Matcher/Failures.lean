import Exchange.Proofs.Matcher.Run
import Exchange.Proofs.Query.Modes
import Exchange.Proofs.XPath.Bound

/-! # How matchers fail

The matchers of the status, header fields, cookies, URLs, handler, model, view, flash attributes
and request fail by assertions alone. Those of the content may fail over the content or its type
too, and those of queries over the content and over what the query comes to. An expression is never
refused when a matcher is run, since it was built before; a matcher of XPath may break off.
-/

namespace Exchange

open Query (Engine Found Mode)
open Ruling

theorem StatusMatcher.asserts_rule (r : Response) (m : StatusMatcher) : Asserts (m.rule r) := by
  cases m with
  | code c => exact asserts_equal
  | codeSatisfies p => exact asserts_satisfies
  | series s => exact .ite asserts_pass asserts_mismatch
  | reason text => exact asserts_needed.bind fun _ _ => asserts_equal
  | reasonSatisfies p => exact asserts_needed.bind fun _ _ => asserts_satisfies
  | reasonPasses check => exact .ite (.error (.head _)) asserts_passes

theorem HeaderMatcher.asserts_rule (name : String) (r : Response) (m : HeaderMatcher) :
    Asserts (m.rule name r) := by
  cases m with
  | value text => exact asserts_equalOptional
  | satisfies p => exact asserts_needed.bind fun _ _ => asserts_satisfies
  | passes check => exact asserts_passes
  | values texts => exact asserts_equal
  | present | absent => exact asserts_require
  | integer n =>
      refine asserts_needed.bind fun raw _ => ?_
      split
      · exact asserts_equal
      · exact asserts_mismatch

theorem CookieMatcher.asserts_needed (name : String) (r : Response) : Asserts (needed name r) := by
  unfold needed
  split
  · exact .ok _
  · exact asserts_fail

theorem CookieMatcher.asserts_rule (name : String) (r : Response) (m : CookieMatcher) :
    Asserts (m.rule name r) := by
  have cookie := asserts_needed name r
  cases m with
  | present => exact cookie.map
  | absent => exact asserts_require
  | value text => exact cookie.bind fun _ _ => asserts_equal
  | satisfies p => exact cookie.bind fun _ _ => asserts_satisfies
  | passes check => exact asserts_passes
  | maxAge seconds =>
      refine cookie.bind fun c _ => ?_
      split
      · exact asserts_equal
      · exact asserts_fail
  | path text | domain text => exact cookie.bind fun _ _ => asserts_equalOptional
  | secure b | httpOnly b => exact cookie.bind fun _ _ => asserts_equal

theorem HandlerMatcher.asserts_needed (handler : Option Handler) : Asserts (needed handler) := by
  cases handler with
  | none => exact asserts_fail
  | some h => exact .ok h

theorem HandlerMatcher.asserts_neededMethod (handler : Option Handler) :
    Asserts (neededMethod handler) := by
  refine (asserts_needed handler).bind fun h _ => ?_
  split
  · exact .ok _
  · exact asserts_fail

theorem HandlerMatcher.asserts_rule (handler : Option Handler) (m : HandlerMatcher) :
    Asserts (m.rule handler) := by
  have method := asserts_neededMethod handler
  cases m with
  | present => exact (asserts_needed handler).map
  | absent =>
      cases handler with
      | none => exact asserts_pass
      | some h => exact asserts_fail
  | type t => exact (asserts_needed handler).bind fun _ _ => asserts_equal
  | methodName n => exact method.bind fun _ _ => asserts_equal
  | methodNameSatisfies p => exact method.bind fun _ _ => asserts_satisfies
  | method t n => exact method.bind fun _ _ => .ite asserts_pass asserts_mismatch

theorem asserts_neededModelAndView (m : Option ModelAndView) : Asserts (neededModelAndView m) := by
  cases m with
  | none => exact asserts_fail
  | some m => exact .ok m

theorem ModelMatcher.asserts_neededResult (m : ModelAndView) (name : String) :
    Asserts (neededResult m name) := by
  unfold neededResult
  split
  · exact .ok _
  · exact asserts_fail

theorem ModelMatcher.asserts_ruleOf (m : ModelAndView) (matcher : ModelMatcher) :
    Asserts (matcher.ruleOf m) := by
  have withErrors (name : String) : Asserts (withErrors m name) :=
    (asserts_neededResult m name).bind fun _ _ => asserts_require
  have withoutErrors (name : String) : Asserts (withoutErrors m name) :=
    (asserts_neededResult m name).bind fun _ _ => asserts_require
  cases matcher with
  | attributeEquals name value => exact asserts_equalJson
  | attributeSatisfies name p => exact asserts_satisfies
  | attributesExist names | attributesDoNotExist names =>
      exact asserts_all (fun _ => asserts_require) names
  | attributesHaveErrors names => exact asserts_all withErrors names
  | attributesHaveNoErrors names => exact asserts_all withoutErrors names
  | attributeHasFieldErrors name fields =>
      refine (asserts_neededResult m name).bind fun _ _ => (withErrors name).bind fun _ _ => ?_
      exact asserts_all (fun _ => asserts_require) fields
  | attributeErrorCount name n =>
      exact (asserts_neededResult m name).bind fun _ _ => asserts_equal
  | hasErrors => exact asserts_require
  | hasNoErrors =>
      simp only [ruleOf]
      split
      · exact asserts_fail
      · exact asserts_pass
  | errorCount n | size n => exact asserts_equal

theorem ModelMatcher.asserts_rule (m : Option ModelAndView) (matcher : ModelMatcher) :
    Asserts (matcher.rule m) :=
  (asserts_neededModelAndView m).bind fun m _ => asserts_ruleOf m matcher

theorem ViewMatcher.asserts_rule (m : Option ModelAndView) (matcher : ViewMatcher) :
    Asserts (matcher.rule m) := by
  refine (asserts_neededModelAndView m).bind fun m _ => ?_
  cases matcher with
  | name n => exact asserts_equalOptional
  | nameSatisfies p => exact asserts_satisfies

theorem FlashMatcher.asserts_rule (flash : Option (Table Json)) (m : FlashMatcher) :
    Asserts (m.rule flash) := by
  cases m with
  | attributeEquals name value => exact asserts_equalJson
  | attributeSatisfies name p => exact asserts_satisfies
  | attributesExist names => exact asserts_all (fun _ => asserts_require) names
  | count n => exact asserts_equal

theorem RequestMatcher.asserts_rule (r : Request) (m : RequestMatcher) : Asserts (m.rule r) := by
  cases m with
  | attributeEquals name value | sessionEquals name value => exact asserts_equalJson

section

variable {Q D N : Type} [Engine Q D N] {q : Q} {r : Response} {kinds : List Failure.Kind}

/-- A question about a query fails as looking for a value does, or by an assertion. -/
theorem Question.failsAs_rule (assertion : .assertion ∈ kinds)
    (looks : ∀ mode, FailsAs kinds (find q r mode)) (question : Question N) :
    FailsAs kinds (question.rule q r) := by
  have asserts {α : Type} {step : Except Failure α} (steps : Asserts step) :
      FailsAs kinds step := steps.of_single assertion
  have present (mode : Mode) : FailsAs kinds (findPresent q r mode) := by
    refine (looks mode).bind fun found _ => ?_
    split
    · exact (asserts asserts_require).bind fun _ _ => .ok _
    · exact .ok _
  cases question with
  | node p => exact (looks _).bind fun _ _ => asserts asserts_satisfies
  | present | absent => exact (looks _).bind fun _ _ => asserts asserts_require
  | count n => exact (looks _).bind fun _ _ => asserts asserts_equal
  | countSatisfies p => exact (looks _).bind fun _ _ => asserts asserts_satisfies
  | text s => exact (present _).bind fun _ _ => asserts asserts_equal
  | textSatisfies p => exact (present _).bind fun _ _ => asserts asserts_satisfies
  | number x =>
      refine (present _).bind fun found _ => ?_
      split
      · exact asserts asserts_equal
      · exact asserts asserts_fail
  | numberSatisfies p =>
      refine (present _).bind fun found _ => ?_
      split
      · exact asserts asserts_satisfies
      · exact asserts asserts_fail
  | boolean b =>
      refine (present _).bind fun found _ => ?_
      split
      · exact asserts asserts_equal
      · exact asserts asserts_fail

end

theorem XPath.failsAs_find {q : XPathQuery} (built : XPath.Built q) (r : Response) (mode : Mode) :
    FailsAs [.content, .coercion, .evaluation, .aborted] (Question.find q r mode) :=
  Question.failsAs_find (.head _)
    (fun content => (XPath.failsAs_readDocument content).of_single (.head _))
    fun _ => (XPath.failsAs_evaluate_of_built built).mono (List.subset_cons_self _ _)

/-- A question in XPath is broken off exactly where the body is read as a document on which the query
    comes to a prefix without a namespace. -/
theorem XPath.rule_eq_aborted_iff {q : XPathQuery} {r : Response} {question : Question XmlNode}
    {text p : String} : question.rule q r = .error (.aborted text p) ↔ text = q.expression.text ∧
      ∃ document, Question.ReadsAs XPathQuery r document ∧ XPath.MeetsUnbound q document p := by
  constructor
  · intro broke
    -- If there is a value, what becomes of the question is for the mode and the comparison to say.
    have fails : (∃ f, ∀ mode, Question.find q r mode = .error f) ∨
        FailsAs [.coercion, .assertion] (question.rule q r) := by
      rcases Question.find_cases q r with failed | ⟨document, found⟩
      · exact .inl failed
      · rcases XPath.evaluate_alike q document with ⟨f, failed⟩ | ⟨value, coerced⟩
        · exact .inl ⟨f, fun mode => (found mode).trans (failed mode)⟩
        · refine .inr (Question.failsAs_rule (by simp) (fun mode => ?_) question)
          rw [found, coerced]
          exact XPath.failsAs_coerce.of_single (.head _)
    rcases fails with ⟨f, failed⟩ | fails
    · cases (Question.rule_of_find_error failed question).symm.trans broke
      exact XPath.fault_aborted_iff.mp (Question.find_eq_error_iff.mp (failed .nodeSet))
    · have known := fails _ broke
      simp [Failure.kind] at known
  · rintro ⟨rfl, document, body, meets⟩
    refine Question.rule_of_find_error (fun mode => ?_) question
    rw [Question.find_of_readsAs body]
    exact XPath.evaluate_eq_aborted_iff.mpr ⟨rfl, meets⟩

theorem JsonQuestion.failsAs_rule (q : JsonPathQuery) (r : Response) (question : JsonQuestion) :
    FailsAs [.content, .coercion, .assertion] (question.rule q r) := by
  have selects := failsAs_select q r
  have asserts {α : Type} {step : Except Failure α} (steps : Asserts step) :
      FailsAs [.content, .coercion, .assertion] step := steps.of_single (by simp)
  have ofKind (kind : String) (test : Json → Bool) (selected : Option Json) :
      Asserts (ofKind q kind test selected) := by
    cases selected with
    | none => exact asserts_fail
    | some j => exact asserts_require
  cases question with
  | value expected =>
      refine (selects _).bind fun selected _ => asserts ?_
      split
      · exact asserts_require
      · exact .ite asserts_pass asserts_mismatch
  | satisfies p => exact (selects _).bind fun _ _ => asserts asserts_satisfies
  | isArray | isObject => exact (selects _).bind fun _ _ => asserts (ofKind _ _ _)
  | isEmpty | isNotEmpty => exact (selects _).bind fun _ _ => asserts asserts_require

namespace ContentMatcher

/-- The kinds of the failures of an expectation about the content. -/
def failureKinds : ContentMatcher → List Failure.Kind
  | text _ | satisfies _ | passes _ | json _ | exactJson _ | xml _ => [.assertion, .content]
  | bytes _ | encoding _ => [.assertion]
  | type _ | compatible _ => [.assertion, .mediaType]
  | root _ => [.assertion, .content, .coercion, .evaluation]

theorem compile_rootElement : XPath.compile rootElement.expression = .ok rootElement := by cbv

theorem failsAs_evaluate_rootElement (document : XmlDocument) (mode : Mode) :
    FailsAs [.coercion, .evaluation] (Engine.evaluate rootElement document mode) := by
  intro f failed
  have known := XPath.failsAs_evaluate_of_built (XPath.built_of_compile compile_rootElement) f failed
  have answered : f.kind ≠ .aborted := by
    intro aborted
    cases f with
    | aborted text p =>
        have meets := (XPath.evaluate_eq_aborted_iff.mp failed).2
        have none : XPath.prefixes rootElement.expression.text = [] := by cbv
        have missed := (XPath.mayMiss_of_meetsUnbound compile_rootElement meets).2
        simp [none] at missed
    | assertion | compile | coercion | evaluation | content | mediaType | output => cases aborted
  simpa [answered] using known

theorem failsAs_readMediaType (text : String) : FailsAs [.mediaType] (readMediaType text) :=
  .mapError fun _ => .head _

theorem failsAs_mediaTypeOf (r : Response) : FailsAs [.assertion, .mediaType] (mediaTypeOf r) := by
  refine (asserts_needed.of_single (.head _)).bind fun raw _ => ?_
  exact ((failsAs_readMediaType raw).of_single (.tail _ (.head _))).bind fun _ _ => .ok _

theorem asserts_similar (expected actual : XmlDocument) : Asserts (similar expected actual) := by
  unfold similar
  split
  · exact asserts_fail
  · exact asserts_pass

theorem failsAs_rule (r : Response) (m : ContentMatcher) :
    FailsAs m.failureKinds (m.rule r) := by
  -- What follows a step that is at fault on its own account only asserts.
  have asserts {more : List Failure.Kind} {α : Type} {step : Except Failure α}
      (steps : Asserts step) : FailsAs (.assertion :: more) step := steps.of_single (.head _)
  have content {more : List Failure.Kind} {α : Type} {step : Except Failure α}
      (steps : FailsAs [.content] step) : FailsAs (.assertion :: .content :: more) step :=
    steps.of_single (.tail _ (.head _))
  have decoded {more : List Failure.Kind} :
      FailsAs (.assertion :: .content :: more) (contentOf r) :=
    content (Question.failsAs_contentOf r)
  cases m with
  | text s => exact decoded.bind fun _ _ => asserts asserts_equal
  | satisfies p => exact decoded.bind fun _ _ => asserts asserts_satisfies
  | passes check => exact decoded.bind fun _ _ => asserts asserts_passes
  | bytes bs => exact asserts_equal
  | type expected =>
      exact (failsAs_mediaTypeOf r).bind fun _ _ => asserts (.ite asserts_pass asserts_mismatch)
  | compatible expected =>
      exact (failsAs_mediaTypeOf r).bind fun _ _ => asserts asserts_require
  | encoding name =>
      exact asserts_needed.bind fun _ _ => .ite asserts_pass asserts_mismatch
  | json expected =>
      refine decoded.bind fun body _ => (content (JsonPath.failsAs_readDocument body)).bind ?_
      exact fun _ _ => asserts (.ite asserts_pass asserts_mismatch)
  | exactJson expected =>
      refine decoded.bind fun body _ => (content (JsonPath.failsAs_readDocument body)).bind ?_
      exact fun _ _ => asserts asserts_equalJson
  | xml expected =>
      refine decoded.bind fun body _ => (content (XPath.failsAs_readDocument body)).bind ?_
      exact fun document _ => asserts (asserts_similar expected document)
  | root p =>
      refine decoded.bind fun body _ => (content (XPath.failsAs_readDocument body)).bind ?_
      refine fun _ _ => .bind ?_ fun found _ => ?_
      · exact (failsAs_evaluate_rootElement _ _).mono (by simp)
      · split
        · exact asserts asserts_satisfies
        · exact asserts asserts_fail

end ContentMatcher

namespace Matcher

/-- The query of a matcher was compiled. -/
def Built : Matcher → Prop
  | xpath q _ => ∃ e, XPath.compile e = .ok q
  | _ => True

/-- The kinds of the failures of a matcher. -/
def failureKinds : Matcher → List Failure.Kind
  | content m => m.failureKinds
  | jsonPath _ _ | jsonValue _ _ => [.content, .coercion, .assertion]
  | xpath _ _ => [.content, .coercion, .evaluation, .aborted, .assertion]
  | _ => [.assertion]

theorem failsAs_verify (o : Outcome) {m : Matcher} (built : m.Built) :
    FailsAs m.failureKinds (m.verify o) := by
  rw [verify_eq]
  cases m with
  | status m => exact m.asserts_rule _
  | content m => exact m.failsAs_rule _
  | header name m => exact m.asserts_rule name _
  | cookie name m => exact m.asserts_rule name _
  | redirectedUrl url | forwardedUrl url => exact asserts_equalOptional
  | jsonPath q question =>
      refine Question.failsAs_rule (by simp [failureKinds]) (fun mode => ?_) question
      exact (JsonPath.failsAs_find q _ mode).mono (by simp [failureKinds])
  | jsonValue q question => exact question.failsAs_rule q _
  | xpath q question =>
      refine Question.failsAs_rule (by simp [failureKinds]) (fun mode => ?_) question
      obtain ⟨e, compiled⟩ := built
      exact (XPath.failsAs_find (XPath.built_of_compile compiled) _ mode).mono (by simp [failureKinds])
  | handler m => exact m.asserts_rule _
  | model m => exact m.asserts_rule _
  | view m => exact m.asserts_rule _
  | flash m => exact m.asserts_rule _
  | request m => exact m.asserts_rule _

theorem compile_notMem_failureKinds (m : Matcher) : .compile ∉ m.failureKinds := by
  cases m with
  | content m => cases m <;> simp [failureKinds, ContentMatcher.failureKinds]
  | _ => simp [failureKinds]

theorem kind_ne_compile {o : Outcome} {m : Matcher} {f : Failure} (built : m.Built)
    (failed : m.verify o = .error f) : f.kind ≠ .compile := by
  intro refused
  exact m.compile_notMem_failureKinds (refused ▸ failsAs_verify o built f failed)

end Matcher

end Exchange
