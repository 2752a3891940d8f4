import Mathlib
import Exchange.Proofs.Suite.Expectation

/-! # What a built matcher may fail with

Whatever can be wrong with a matcher itself is found when it is built. Run against an outcome, it
fails by an assertion, or because the content or its type is not what it has to be read as, or
because a query comes to nothing that can be used: never because of its own expression, and never
because something could not be written. Only a query of XPath may break off instead, at a prefix
without a namespace.
-/

namespace Exchange

open Query (Engine)

namespace Query

variable {Q D N : Type} [Engine Q D N]

/-- Queries that are compiled, from an expression or from a template with its arguments. -/
inductive Compiled : Q → Prop where
  | expression {e : Expression} {q : Q} (compiled : Engine.compile e = .ok q) : Compiled q
  | template {template : String} {arguments : List String} {namespaces : Table String} {q : Q}
      (compiled : compileTemplate template arguments namespaces = .ok q) : Compiled q

theorem Compiled.exists_expression {q : Q} (compiled : Compiled q) :
    ∃ e, Engine.compile e = .ok q := by
  cases compiled with
  | expression compiled => exact ⟨_, compiled⟩
  | template compiled =>
      unfold compileTemplate at compiled
      split at compiled
      · exact ⟨_, compiled⟩
      · cases compiled

end Query

namespace Matcher

/-- Matchers that are built, of any arguments: those of queries from what was compiled, and those of
    the expectations of suites by compiling these. -/
inductive Made : Matcher → Prop where
  | status (m : StatusMatcher) : Made (status m)
  | content (m : ContentMatcher) : Made (content m)
  | header (name : String) (m : HeaderMatcher) : Made (header name m)
  | cookie (name : String) (m : CookieMatcher) : Made (cookie name m)
  | redirectedUrl (url : String) : Made (redirectedUrl url)
  | forwardedUrl (url : String) : Made (forwardedUrl url)
  | jsonPath {q : JsonPathQuery} (compiled : Query.Compiled q) (question : Question Json) :
      Made (jsonPath q question)
  | jsonValue {q : JsonPathQuery} (compiled : Query.Compiled q) (question : JsonQuestion) :
      Made (jsonValue q question)
  | xpath {q : XPathQuery} (compiled : Query.Compiled q) (question : Question XmlNode) :
      Made (xpath q question)
  | handler (m : HandlerMatcher) : Made (handler m)
  | model (m : ModelMatcher) : Made (model m)
  | view (m : ViewMatcher) : Made (view m)
  | flash (m : FlashMatcher) : Made (flash m)
  | request (m : RequestMatcher) : Made (request m)
  | expectation {e : Expectation} {m : Matcher} (compiled : e.compile = .ok m) : Made m

theorem Made.built {m : Matcher} (made : m.Made) : m.Built := by
  cases made with
  | xpath compiled question =>
      exact compiled.exists_expression
  | expectation compiled => exact Expectation.built_of_compile compiled
  | status _ | content _ | header _ _ | cookie _ _ | redirectedUrl _ | forwardedUrl _
  | jsonPath _ _ | jsonValue _ _ | handler _ | model _ | view _ | flash _ | request _ => trivial

/-- Does the matcher decode the body? -/
def decodesBody : Matcher → Bool
  | content (.bytes _) | content (.encoding _) | content (.type _) | content (.compatible _) => false
  | content _ | jsonPath _ _ | jsonValue _ _ | xpath _ _ => true
  | _ => false

/-- Does the matcher read the content type? -/
def readsContentType : Matcher → Bool
  | content (.type _) | content (.compatible _) => true
  | _ => false

/-- Does the matcher evaluate a query? -/
def evaluatesQuery : Matcher → Bool
  | content (.root _) | jsonPath _ _ | jsonValue _ _ | xpath _ _ => true
  | _ => false

/-- Does the matcher only compare what an outcome holds as it is? -/
def onlyCompares : Matcher → Bool
  | status _ | header _ _ | cookie _ _ | handler _ | model _ | view _ | flash _ | request _ => true
  | redirectedUrl _ | forwardedUrl _ | content (.encoding _) | content (.bytes _) => true
  | _ => false

/-- The failures that a matcher may have at an outcome. -/
inductive MayFail (o : Outcome) (m : Matcher) : Failure → Prop where
  | assertion (cause : Assertion) : MayFail o m (.assertion cause)
  | content (fault : ContentFault) (decodes : m.decodesBody) : MayFail o m (.content fault)
  /-- The media type that cannot be read is the one that the response declares. -/
  | mediaType {text : String} {fault : MediaType.Fault} (reads : m.readsContentType)
      (declared : o.response.contentType = some text)
      (refused : MediaType.read text = .error fault) : MayFail o m (.mediaType text fault)
  | coercion (expression found : String) (mode : Query.Mode) (evaluates : m.evaluatesQuery) :
      MayFail o m (.coercion expression found mode)
  | evaluation (expression : String) (evaluates : m.evaluatesQuery) :
      MayFail o m (.evaluation expression)

/-- Running a matcher breaks off at a prefix: it asks a query of XPath that comes to it on the document
    that the body is read as, and has no namespace for it. -/
inductive BreaksOff (o : Outcome) : Matcher → (text p : String) → Prop where
  | xpath {q : XPathQuery} {question : Question XmlNode} {document : XmlDocument} {p : String}
      (body : Question.ReadsAs XPathQuery o.response document)
      (meets : XPath.MeetsUnbound q document p) :
      BreaksOff o (xpath q question) q.expression.text p

variable {m : Matcher} {o : Outcome} {f : Failure}

/-- The kinds of the failures of a matcher, by what the matcher does. -/
theorem does_of_mem_failureKinds (m : Matcher) : ∀ kind ∈ m.failureKinds, match kind with
    | .assertion => True
    | .content => m.decodesBody = true
    | .mediaType => m.readsContentType = true
    | .coercion | .evaluation => m.evaluatesQuery = true
    | .aborted => ∃ q question, m = xpath q question
    | .compile | .output => False := by
  cases m with
  | content m =>
      cases m <;> simp [failureKinds, ContentMatcher.failureKinds, decodesBody, readsContentType,
        evaluatesQuery]
  | _ => simp [failureKinds, decodesBody, evaluatesQuery]

theorem failureKinds_of_onlyCompares (compares : m.onlyCompares = true) :
    m.failureKinds = [.assertion] := by
  cases m with
  | content m =>
      cases m with
      | bytes | encoding => rfl
      | _ => cases compares
  | jsonPath | jsonValue | xpath => cases compares
  | _ => rfl

theorem declared_of_mediaTypeOf {r : Response} {text : String} {fault : MediaType.Fault}
    (failed : ContentMatcher.mediaTypeOf r = .error (.mediaType text fault)) :
    r.contentType = some text ∧ MediaType.read text = .error fault := by
  rcases bind_eq_error_iff.mp failed with missing | ⟨raw, declared, failed⟩
  · cases kind_of_asserts Ruling.asserts_needed missing
  · rcases bind_eq_error_iff.mp failed with refused | ⟨_, -, passed⟩
    · obtain ⟨_, refused, same⟩ := mapError_eq_error_iff.mp refused
      cases same
      exact ⟨Ruling.needed_eq_ok_iff.mp declared, refused⟩
    · cases passed

theorem declared_of_mediaType {text : String} {fault : MediaType.Fault}
    (failed : m.verify o = .error (.mediaType text fault)) (reads : m.readsContentType = true) :
    o.response.contentType = some text ∧ MediaType.read text = .error fault := by
  rw [verify_eq] at failed
  cases m with
  | content m =>
      cases m with
      | type expected =>
          rcases bind_eq_error_iff.mp failed with early | ⟨_, -, late⟩
          · exact declared_of_mediaTypeOf early
          · cases kind_of_asserts (.ite Ruling.asserts_pass Ruling.asserts_mismatch) late
      | compatible expected =>
          rcases bind_eq_error_iff.mp failed with early | ⟨_, -, late⟩
          · exact declared_of_mediaTypeOf early
          · cases kind_of_asserts Ruling.asserts_require late
      | _ => cases reads
  | _ => cases reads

theorem verify_eq_aborted_iff (built : m.Built) {text p : String} :
    m.verify o = .error (.aborted text p) ↔ m.BreaksOff o text p := by
  constructor
  · intro broke
    obtain ⟨q, question, rfl⟩ := m.does_of_mem_failureKinds _ (failsAs_verify o built _ broke)
    rw [verify_eq] at broke
    obtain ⟨rfl, document, body, meets⟩ := XPath.rule_eq_aborted_iff.mp broke
    exact .xpath body meets
  · rintro ⟨body, meets⟩
    rw [verify_eq]
    exact XPath.rule_eq_aborted_iff.mpr ⟨rfl, _, body, meets⟩

theorem mayFail_of_verify (built : m.Built) (failed : m.verify o = .error f)
    (answered : f.kind ≠ .aborted) : m.MayFail o f := by
  have does := m.does_of_mem_failureKinds _ (failsAs_verify o built f failed)
  cases f with
  | assertion cause => exact .assertion cause
  | compile language expression fault => exact does.elim
  | coercion expression found mode => exact .coercion _ _ _ does
  | evaluation expression => exact .evaluation _ does
  | content fault => exact .content _ does
  | mediaType text fault =>
      obtain ⟨declared, refused⟩ := declared_of_mediaType failed does
      exact .mediaType does declared refused
  | output reason => exact does.elim
  | aborted text p => exact absurd rfl answered

/-- A matcher that was built passes, or fails as it may fail: never over an expression and never
    over writing. One that only compares what the outcome holds fails by an assertion alone. Only a
    matcher of XPath may break off, where its query comes to a prefix that it has no namespace for
    although it was compiled. -/
theorem errors_eager {m : Matcher} (made : m.Made) (o : Outcome) :
    (m.verify o = Ruling.pass ∨ (∃ f, m.verify o = .error f ∧ m.MayFail o f) ∨
      ∃ text p, m.verify o = .error (.aborted text p)) ∧
    (∀ text p, m.verify o = .error (.aborted text p) ↔ m.BreaksOff o text p) ∧
    (∀ text p, m.BreaksOff o text p →
      ∃ q question, m = xpath q question ∧ XPath.MayMiss q p) ∧
    (∀ language expression fault, m.verify o ≠ .error (.compile language expression fault)) ∧
    (∀ reason, m.verify o ≠ .error (.output reason)) ∧
    (m.onlyCompares = true →
      m.verify o = Ruling.pass ∨ ∃ cause, m.verify o = .error (.assertion cause)) := by
  have mayFail (f : Failure) (failed : m.verify o = .error f) (answered : f.kind ≠ .aborted) :
      m.MayFail o f := mayFail_of_verify made.built failed answered
  refine ⟨?_, fun _ _ => verify_eq_aborted_iff made.built, ?_, ?_, ?_, fun compares => ?_⟩
  · cases verified : m.verify o with
    | ok _ => exact .inl rfl
    | error f =>
        by_cases aborted : f.kind = .aborted
        · cases f with
          | aborted text p => exact .inr (.inr ⟨text, p, rfl⟩)
          | _ => cases aborted
        · exact .inr (.inl ⟨f, rfl, mayFail f verified aborted⟩)
  · rintro text p ⟨body, meets⟩
    obtain ⟨e, compiled⟩ := made.built
    exact ⟨_, _, rfl, XPath.mayMiss_of_meetsUnbound compiled meets⟩
  · intro language expression fault failed
    cases mayFail _ failed (by simp [Failure.kind])
  · intro reason failed
    cases mayFail _ failed (by simp [Failure.kind])
  · cases verified : m.verify o with
    | ok _ => exact .inl rfl
    | error f =>
        have known := failsAs_verify o made.built f verified
        rw [failureKinds_of_onlyCompares compares] at known
        cases f with
        | assertion cause => exact .inr ⟨cause, rfl⟩
        | _ => simp [Failure.kind] at known

/-- The boolean of a node that spells none: the expression is fine, and its value is at fault. -/
theorem errors_eager_boolean : ∃ (q : XPathQuery) (o : Outcome) (f : Failure),
    XPath.compile ⟨"/a", []⟩ = .ok q ∧ (xpath q (.boolean true)).Made ∧
    (xpath q (.boolean true)).verify o = .error f ∧
    f = .coercion "/a" "\"yes\"" .boolean ∧ (xpath q (.boolean true)).MayFail o f := by
  let q : XPathQuery := ⟨⟨"/a", []⟩⟩
  let o : Outcome := { response := { body := Text.Utf8.encode "<a>yes</a>" } }
  have compiled : XPath.compile ⟨"/a", []⟩ = .ok q := by cbv
  have failed : (xpath q (.boolean true)).verify o =
      .error (.coercion "/a" "\"yes\"" .boolean) := by cbv
  have made : (xpath q (.boolean true)).Made := .xpath (.expression compiled) _
  rcases (errors_eager made o).1 with passed | ⟨f, same, mayFail⟩ | ⟨text, p, broke⟩
  · cases failed.symm.trans passed
  · cases failed.symm.trans same
    exact ⟨q, o, _, compiled, made, failed, rfl, mayFail⟩
  · cases failed.symm.trans broke

/-- A matcher that was built breaks off over an attribute with the prefix of XML itself: it neither
    passes nor fails in any of the ways in which it may fail. -/
theorem aborted_over_reserved_prefix : ∃ (q : XPathQuery) (o : Outcome),
    XPath.compile ⟨"/a/@xml:lang", []⟩ = .ok q ∧ (xpath q (.text "en")).Made ∧
    o.response.body = Text.Utf8.encode "<a xml:lang=\"en\"/>" ∧
    (xpath q (.text "en")).verify o = .error (.aborted "/a/@xml:lang" "xml") ∧
    (xpath q (.text "en")).verify o ≠ Ruling.pass ∧
    ∀ f, (xpath q (.text "en")).verify o = .error f → ¬(xpath q (.text "en")).MayFail o f := by
  let q : XPathQuery := ⟨⟨"/a/@xml:lang", []⟩⟩
  let o : Outcome := { response := { body := Text.Utf8.encode "<a xml:lang=\"en\"/>" } }
  have compiled : XPath.compile ⟨"/a/@xml:lang", []⟩ = .ok q := by cbv
  have broke : (xpath q (.text "en")).verify o = .error (.aborted "/a/@xml:lang" "xml") := by cbv
  refine ⟨q, o, compiled, .xpath (.expression compiled) _, rfl, broke, fun passed => ?_,
    fun f failed mayFail => ?_⟩
  · cases broke.symm.trans passed
  · cases broke.symm.trans failed
    cases mayFail

end Matcher

end Exchange
