import Mathlib
import Exchange.Proofs.Query.Question
import Exchange.Proofs.XPath.Evaluation
import Exchange.Proofs.XPath.Labels

/-! # Bound prefixes

An expression compiles if each prefix that the scan finds in it has a namespace, or is the one that
XML itself binds. An evaluation knows the given namespaces alone. So it can miss a namespace in two
ways: of the prefix of XML, and of a prefix that the scan found only with the word of an operator in
front.
-/

namespace Exchange.XPath

open Query (Engine Mode)

variable {e : Query.Expression} {q : XPathQuery} {document : XmlDocument}

theorem unboundPrefix?_eq_none_iff : unboundPrefix? e = none ↔
    ∀ p ∈ prefixes e.text, p ≠ reservedLabel → e.namespaces.find? p ≠ none := by
  simp [unboundPrefix?, List.find?_eq_none]

theorem build_eq_ok_iff {text : String} {x : Expr} :
    build text = .ok x ↔ read? text = some (some x) := by
  unfold build
  split <;> simp [*]

theorem compile_eq_ok_iff : compile e = .ok q ↔
    unboundPrefix? e = none ∧ (∃ x, build e.text = .ok x) ∧ q = ⟨e⟩ := by
  simp only [compile, compileIn]
  split
  · rename_i p unbound
    simp [unbound]
  · rename_i bound
    rw [build_nil]
    cases build e.text with
    | error fault => simp
    | ok x => simp [bound, eq_comm]

/-- A prefix that is seen is one that the scan finds, or the end of one that starts with the word of
    an operator. -/
theorem prefixes_of_seen {text p : String} (seen : Seen (.run []) text.toList p.toList) :
    p ∈ prefixes text ∨
      ∃ word ∈ operatorWords, ∃ middle : String, word ++ middle ++ p ∈ prefixes text := by
  obtain ⟨name, found, rfl | ⟨glue, ⟨word, mem, more, rfl⟩, rfl⟩⟩ := seen
  · exact .inl (mem_prefixes_iff.mpr found)
  · refine .inr ⟨word, mem, String.ofList more, mem_prefixes_iff.mpr ?_⟩
    simpa using found

/-- A prefix without a namespace that an evaluation of the query may come to although the query was
    compiled: that of XML itself, or one that the scan found only behind the word of an operator. -/
def MayMiss (q : XPathQuery) (p : String) : Prop :=
  q.expression.namespaces.find? p = none ∧
    ((p = reservedLabel ∧ p ∈ prefixes q.expression.text) ∨
      ∃ word ∈ operatorWords, ∃ middle : String, word ++ middle ++ p ∈ prefixes q.expression.text)

theorem mayMiss_of_meetsUnbound {p : String} (compiled : compile e = .ok q)
    (meets : MeetsUnbound q document p) : MayMiss q p := by
  obtain ⟨bound, -, rfl⟩ := compile_eq_ok_iff.mp compiled
  obtain ⟨x, built, met⟩ := meets
  have labelled := labelled_of_read? (build_eq_ok_iff.mp built)
  obtain ⟨seen, unbound⟩ := misses_eval labelled _ p met
  refine ⟨unbound, ?_⟩
  rcases prefixes_of_seen seen with mem | glued
  · refine .inl ⟨?_, mem⟩
    by_contra other
    exact unboundPrefix?_eq_none_iff.mp bound p mem other unbound
  · exact .inr glued

/-- Looking for a value breaks off exactly where the body is read as a document on which the query
    comes to a prefix without a namespace. -/
theorem fault_aborted_iff {r : Response} {mode : Mode} {text p : String} :
    Question.Fault q r mode (.aborted text p) ↔ text = q.expression.text ∧
      ∃ document, Question.ReadsAs XPathQuery r document ∧ MeetsUnbound q document p := by
  constructor
  · intro fault
    cases fault with
    | decoding undecodable =>
        have known := Question.failsAs_contentOf r _ undecodable
        simp [Failure.kind] at known
    | @reading content _ malformed =>
        have known := failsAs_readDocument content _ malformed
        simp [Failure.kind] at known
    | evaluation decoded read failed =>
        obtain ⟨same, meets⟩ := evaluate_eq_aborted_iff.mp failed
        exact ⟨same, _, ⟨_, decoded, read⟩, meets⟩
  · rintro ⟨same, document, ⟨content, decoded, read⟩, meets⟩
    exact .evaluation decoded read (evaluate_eq_aborted_iff.mpr ⟨same, meets⟩)

/-- The only prefix that compiles without a namespace is the one that XML itself binds, and where it
    has none an evaluation misses it. Else an evaluation misses only a prefix that the scan took for
    part of another one, which starts with the word of an operator. An evaluation breaks off, in
    whatever mode, exactly where it comes to a prefix that it misses. -/
theorem unbound_of_compile (compiled : compile e = .ok q) (document : XmlDocument) :
    (∀ p ∈ prefixes e.text, (environment q document).namespaces.find? p = none ↔
      p = reservedLabel ∧ e.namespaces.find? reservedLabel = none) ∧
    (∃ x, build e.text = .ok x ∧
      ∀ p, evaluate (environment q document) x = .error (.unboundPrefix p) →
        (environment q document).namespaces.find? p = none ∧
          ((p = reservedLabel ∧ p ∈ prefixes e.text) ∨
            ∃ word ∈ operatorWords, ∃ middle : String, word ++ middle ++ p ∈ prefixes e.text)) ∧
    ∀ mode text p, Engine.evaluate q document mode = .error (.aborted text p) ↔
      text = e.text ∧ MeetsUnbound q document p := by
  have miss {p : String} (meets : MeetsUnbound q document p) : MayMiss q p :=
    mayMiss_of_meetsUnbound compiled meets
  obtain ⟨bound, ⟨x, built⟩, rfl⟩ := compile_eq_ok_iff.mp compiled
  refine ⟨fun p mem => ⟨fun unbound => ?_, ?_⟩, ⟨x, built, ?_⟩, ?_⟩
  · have isReserved : p = reservedLabel := by
      by_contra other
      exact unboundPrefix?_eq_none_iff.mp bound p mem other unbound
    exact ⟨isReserved, isReserved ▸ unbound⟩
  · rintro ⟨rfl, unbound⟩
    exact unbound
  · intro p met
    exact miss ⟨x, built, met⟩
  · intro mode text p
    exact evaluate_eq_aborted_iff

/-- The word of an operator that is glued to a prefix hides it from the scan. -/
theorem unbound_of_compile_glued : ∃ (q : XPathQuery) (x : Expr) (document : XmlDocument),
    compile ⟨"a anda:b", [("anda", "u")]⟩ = .ok q ∧ build "a anda:b" = .ok x ∧
    evaluate (environment q document) x = .error (.unboundPrefix "a") ∧
    (∀ mode, Engine.evaluate q document mode = .error (.aborted "a anda:b" "a")) ∧
    (environment q document).namespaces.find? "a" = none ∧ prefixes "a anda:b" = ["anda"] ∧
    ∃ word ∈ operatorWords, ∃ middle : String, word ++ middle ++ "a" ∈ prefixes "a anda:b" := by
  let q : XPathQuery := ⟨⟨"a anda:b", [("anda", "u")]⟩⟩
  let document : XmlDocument := ⟨[.element ⟨⟨none, "a"⟩, none, [], []⟩ []]⟩
  let x : Expr := .binary .and (.path .context [(.child, .name ⟨none, "a"⟩, [])])
    (.path .context [(.child, .name ⟨some "a", "b"⟩, [])])
  have compiled : compile ⟨"a anda:b", [("anda", "u")]⟩ = .ok q := by cbv
  have built : build "a anda:b" = .ok x := by cbv
  have failed : evaluate (environment q document) x = .error (.unboundPrefix "a") := by cbv
  obtain ⟨-, ⟨y, same, missed⟩, aborted⟩ := unbound_of_compile compiled document
  have broke (mode : Mode) : Engine.evaluate q document mode = .error (.aborted "a anda:b" "a") :=
    (aborted mode _ _).mpr ⟨rfl, x, built, failed⟩
  cases built.symm.trans same
  obtain ⟨unbound, reserved | glued⟩ := missed "a" failed
  · exact absurd reserved.1 (by decide)
  · exact ⟨q, x, document, compiled, built, failed, broke, unbound, by cbv, glued⟩

/-- The prefix of XML itself compiles without a namespace, is unbound where it is met, and breaks the
    evaluation off there. -/
theorem unbound_xml : ∃ (q : XPathQuery) (x : Expr) (document : XmlDocument),
    compile ⟨"/a/@xml:lang", []⟩ = .ok q ∧ reservedLabel ∈ prefixes "/a/@xml:lang" ∧
    readDocument "<a xml:lang=\"en\"/>" = .ok document ∧
    (environment q document).namespaces.find? reservedLabel = none ∧
    build "/a/@xml:lang" = .ok x ∧
    evaluate (environment q document) x = .error (.unboundPrefix reservedLabel) ∧
    ∀ mode, Engine.evaluate q document mode = .error (.aborted "/a/@xml:lang" reservedLabel) := by
  let space := "http://www.w3.org/XML/1998/namespace"
  let document : XmlDocument := ⟨[.element ⟨⟨none, "a"⟩, none,
    [⟨⟨some space, "lang"⟩, some "xml", "en"⟩], [⟨"xml", space⟩]⟩ []]⟩
  let q : XPathQuery := ⟨⟨"/a/@xml:lang", []⟩⟩
  let x : Expr := .path .root [(.child, .name ⟨none, "a"⟩, []),
    (.attribute, .name ⟨some "xml", "lang"⟩, [])]
  have found : prefixes "/a/@xml:lang" = [reservedLabel] := by cbv
  have built : build "/a/@xml:lang" = .ok x := by cbv
  have met : evaluate (environment q document) x = .error (.unboundPrefix reservedLabel) := by cbv
  refine ⟨q, x, document, by cbv, ?_, by cbv, rfl, built, met, fun mode => ?_⟩
  · rw [found]
    exact List.mem_singleton_self _
  · exact evaluate_eq_aborted_iff.mpr ⟨rfl, x, built, met⟩

end Exchange.XPath
