import Mathlib
import Exchange.Proofs.Query.Modes
import Exchange.Proofs.XPath.Bound

/-! # Existence

Whether something is there and whether nothing is there are opposite questions, whatever the query
finds: of the two exactly one passes, unless there is no value to ask about. Then both fail alike, or
neither is answered because the evaluation broke off, which an evaluation of XPath does at a prefix
without a namespace. In XPath they also agree with the questions about the first node and about the
number of nodes, although those are evaluated in modes of their own.
-/

namespace Exchange

namespace Query

theorem Found.present_iff {N : Type} [IsNode N] {found : Found N} : found.present = true ↔
    found ≠ .absent ∧ found ≠ .nodes [] ∧ ∀ n, found = .node n → IsNode.itemCount? n ≠ some 0 := by
  cases found with
  | nodes ns => cases ns <;> simp [present]
  | absent | node | string | number | boolean => simp [present]

theorem itemCount?_eq_zero {j : Json} : IsNode.itemCount? j = some 0 ↔ j = .array [] := by
  cases j with
  | array items => simp [IsNode.itemCount?]
  | null | bool | number | string | object => simp [IsNode.itemCount?]

end Query

namespace Question

open Query (Engine Mode Found IsNode)

section

variable {Q D N : Type} [Engine Q D N] {q : Q} {r : Response}

/-- How the two questions about existence stand to each other, where some values count as absent:
    neither is answered if the evaluation breaks off, they fail alike if there is no value for
    another reason, and of the two exactly one passes if there is one. -/
structure Coherent (q : Q) (r : Response) (countsAsAbsent : Found N → Prop) : Prop where
  aborted : ∀ text p, Fault q r (Engine.naturalMode q) (.aborted text p) →
    rule q r .present = .error (.aborted text p) ∧ rule q r .absent = .error (.aborted text p)
  faulty : ∀ f, f.kind ≠ .aborted → Fault q r (Engine.naturalMode q) f →
    rule q r .present = .error f ∧ rule q r .absent = .error f
  faultless : (∀ f, ¬Fault q r (Engine.naturalMode q) f) →
    ∃ found, Finds q r (Engine.naturalMode q) found ∧
      (rule q r .present = Ruling.pass ↔ rule q r .absent ≠ Ruling.pass) ∧
      (rule q r .present = Ruling.pass ↔ ¬countsAsAbsent found)

theorem existence_of_fault {f : Failure} (fault : Fault q r (Engine.naturalMode q) f) :
    rule q r .present = .error f ∧ rule q r .absent = .error f := by
  have failed := find_eq_error_iff.mpr fault
  constructor
  · rw [rule, failed]
    rfl
  · rw [rule, failed]
    rfl

theorem present_eq_pass_iff_of_finds {found : Found N}
    (finds : Finds q r (Engine.naturalMode q) found) :
    rule q r .present = Ruling.pass ↔ found.present = true := by
  rw [present_eq_pass_iff, find_eq_ok_iff.mpr finds]
  simp

theorem absent_eq_pass_iff_of_finds {found : Found N}
    (finds : Finds q r (Engine.naturalMode q) found) :
    rule q r .absent = Ruling.pass ↔ found.present = false := by
  rw [absent_eq_pass_iff, find_eq_ok_iff.mpr finds]
  simp

theorem coherent_of_present {countsAsAbsent : Found N → Prop}
    (rest : ∀ found : Found N, found.present = true ↔ ¬countsAsAbsent found) :
    Coherent q r countsAsAbsent where
  aborted := fun _ _ fault => existence_of_fault fault
  faulty := fun _ _ fault => existence_of_fault fault
  faultless := by
    intro faultless
    obtain ⟨found, finds⟩ := exists_finds faultless
    have passes := present_eq_pass_iff_of_finds finds
    refine ⟨found, finds, ?_, passes.trans (rest found)⟩
    rw [passes, ne_eq, absent_eq_pass_iff_of_finds finds, Bool.not_eq_false]

end

section

variable (q : XPathQuery)

/-- The two modes that ask for nodes fail together, and otherwise see the same nodes. -/
theorem find_nodes (r : Response) :
    (∃ f g, find q r .singleNode = .error f ∧ find q r .nodeSet = .error g) ∨
    ∃ (nodes : List XmlNode) (found : Found XmlNode),
      find q r .nodeSet = .ok (.nodes nodes) ∧ find q r .singleNode = .ok found ∧
        found.node? = nodes.head? := by
  rcases find_cases q r with ⟨f, failed⟩ | ⟨document, found⟩
  · exact .inl ⟨f, f, failed _, failed _⟩
  · simp only [found]
    rcases XPath.evaluate_alike q document with ⟨f, failed⟩ | ⟨value, coerced⟩
    · exact .inl ⟨f, f, failed _, failed _⟩
    · simp only [coerced]
      cases value with
      | nodes places =>
          refine .inr ⟨places.map (XPath.snapshot (XPath.environment q document).tree), ?_⟩
          cases places with
          | nil => exact ⟨_, rfl, rfl, rfl⟩
          | cons place others => exact ⟨_, rfl, rfl, rfl⟩
      | boolean b => exact .inl ⟨_, _, rfl, rfl⟩
      | number x => exact .inl ⟨_, _, rfl, rfl⟩
      | string s => exact .inl ⟨_, _, rfl, rfl⟩

variable (r : Response)

theorem node_iff_head {p : Predicate (Option XmlNode)} : rule q r (.node p) = Ruling.pass ↔
    ∃ nodes, find q r .nodeSet = .ok (.nodes nodes) ∧ p.accepts nodes.head? = true := by
  rw [node_eq_pass_iff]
  rcases find_nodes q r with ⟨f, g, single, set⟩ | ⟨nodes, found, set, single, first⟩
  · simp [single, set]
  · simp [single, set, first]

theorem count_iff_length {k : Nat} : rule q r (.count k) = Ruling.pass ↔
    ∃ nodes, find q r .nodeSet = .ok (.nodes nodes) ∧ nodes.length = k := by
  rw [count_eq_pass_iff]
  rcases find_nodes q r with ⟨f, g, single, set⟩ | ⟨nodes, found, set, single, first⟩
  · simp [set]
  · simp [set, Found.nodeList]

theorem present_iff_nodes : rule q r .present = Ruling.pass ↔
    ∃ nodes, find q r .nodeSet = .ok (.nodes nodes) ∧ nodes ≠ [] := by
  rw [present_eq_pass_iff]
  show (∃ found, find q r .nodeSet = .ok found ∧ _) ↔ _
  rcases find_nodes q r with ⟨f, g, single, set⟩ | ⟨nodes, found, set, single, first⟩
  · simp [set]
  · simp [set, Found.present]

theorem absent_iff_no_nodes : rule q r .absent = Ruling.pass ↔
    find q r .nodeSet = .ok (.nodes []) := by
  rw [absent_eq_pass_iff]
  show (∃ found, find q r .nodeSet = .ok found ∧ _) ↔ _
  rcases find_nodes q r with ⟨f, g, single, set⟩ | ⟨nodes, found, set, single, first⟩
  · simp [set]
  · simp [set, Found.present]

theorem present_iff_node_present : rule q r .present = Ruling.pass ↔
    rule q r (.node .present) = Ruling.pass := by
  rw [present_iff_nodes, node_iff_head]
  refine exists_congr fun nodes => and_congr_right fun _ => ?_
  cases nodes <;> simp [Predicate.present, Predicate.accepts]

theorem present_iff_count : rule q r .present = Ruling.pass ↔
    ∃ k, 1 ≤ k ∧ rule q r (.count k) = Ruling.pass := by
  simp only [present_iff_nodes, count_iff_length, ← List.length_pos_iff]
  constructor
  · rintro ⟨nodes, found, some⟩
    exact ⟨nodes.length, some, nodes, found, rfl⟩
  · rintro ⟨k, some, nodes, found, rfl⟩
    exact ⟨nodes, found, some⟩

theorem absent_iff_node_absent : rule q r .absent = Ruling.pass ↔
    rule q r (.node .absent) = Ruling.pass := by
  rw [absent_iff_no_nodes, node_iff_head]
  simp [Predicate.absent, Predicate.accepts]

theorem absent_iff_count_zero : rule q r .absent = Ruling.pass ↔
    rule q r (.count 0) = Ruling.pass := by
  rw [absent_iff_no_nodes, count_iff_length]
  simp

end

/-- In both languages a value is present unless it is absent or an empty list of nodes, and in JSON
    path unless it is an empty array. In XPath presence is the same as a first node and as one node
    or more, and absence the same as no first node and as none at all. Only evaluations of XPath
    break off, and only at a prefix that compiles without a namespace. -/
theorem existence_coherent (r : Response) :
    (∀ q : JsonPathQuery,
      (Coherent q r fun found => found = .absent ∨ found = .nodes [] ∨ found = .node (.array [])) ∧
      ∀ text p, ¬Fault q r (Engine.naturalMode q) (.aborted text p)) ∧
    ∀ q : XPathQuery,
      (Coherent q r fun found => found = .absent ∨ found = .nodes []) ∧
      (∀ text p, Fault q r (Engine.naturalMode q) (.aborted text p) ↔ text = q.expression.text ∧
        ∃ document, ReadsAs XPathQuery r document ∧ XPath.MeetsUnbound q document p) ∧
      (∀ e document p, XPath.compile e = .ok q → XPath.MeetsUnbound q document p →
        XPath.MayMiss q p) ∧
      (rule q r .present = Ruling.pass ↔ rule q r (.node .present) = Ruling.pass) ∧
      (rule q r .present = Ruling.pass ↔ ∃ k, 1 ≤ k ∧ rule q r (.count k) = Ruling.pass) ∧
      (rule q r .absent = Ruling.pass ↔ rule q r (.node .absent) = Ruling.pass) ∧
      (rule q r .absent = Ruling.pass ↔ rule q r (.count 0) = Ruling.pass) := by
  constructor
  · intro q
    refine ⟨coherent_of_present fun found => ?_, fun text p fault => ?_⟩
    · rw [Found.present_iff, not_or, not_or]
      simp only [ne_eq, Query.itemCount?_eq_zero, and_congr_right_iff]
      intro _ _
      exact ⟨fun others same => others _ same rfl, fun other n same empty => other (empty ▸ same)⟩
    · have known := JsonPath.failsAs_find q r _ _ (find_eq_error_iff.mpr fault)
      simp [Failure.kind] at known
  · intro q
    refine ⟨coherent_of_present fun found => ?_, fun _ _ => XPath.fault_aborted_iff,
      fun _ _ _ => XPath.mayMiss_of_meetsUnbound, present_iff_node_present q r,
      present_iff_count q r, absent_iff_node_absent q r, absent_iff_count_zero q r⟩
    rw [Found.present_iff, not_or]
    simp [IsNode.itemCount?]

/-- An empty array is found and yet counts as absent. -/
theorem existence_coherent_empty_array :
    ∃ (q : JsonPathQuery) (r : Response), JsonPath.compile ⟨"$.a", []⟩ = .ok q ∧
      Finds q r (Engine.naturalMode q) (.node (.array [])) ∧
      rule q r .present ≠ Ruling.pass ∧ rule q r .absent = Ruling.pass := by
  let q : JsonPathQuery := ⟨⟨"$.a", []⟩, [.child [.name "a"]], true⟩
  let r : Response := { body := Text.Utf8.encode "\x7b\"a\":[]\x7d" }
  have compiled : JsonPath.compile ⟨"$.a", []⟩ = .ok q := by cbv
  have decoded : ContentMatcher.contentOf r = .ok "\x7b\"a\":[]\x7d" := by cbv
  have read : Engine.read (Q := JsonPathQuery) "\x7b\"a\":[]\x7d" =
      .ok (.object [("a", .array [])]) := by cbv
  have finds : Finds q r (Engine.naturalMode q) (.node (.array [])) :=
    .evaluated decoded read (by cbv)
  have sound : find q r (Engine.naturalMode q) = .ok (.node (.array [])) :=
    find_eq_ok_iff.mpr finds
  obtain ⟨found, same, opposite, rest⟩ := ((existence_coherent r).1 q).1.faultless fun f fault => by
    cases sound.symm.trans (find_eq_error_iff.mpr fault)
  cases sound.symm.trans (find_eq_ok_iff.mpr same)
  have missing : rule q r .present ≠ Ruling.pass := fun passed =>
    rest.mp passed (.inr (.inr rfl))
  exact ⟨q, r, compiled, finds, missing, not_not.mp (mt opposite.mpr missing)⟩

/-- Asked for an attribute with the prefix of XML itself, neither question is answered: there is no
    value, and no failure either that would be reported. -/
theorem existence_of_reserved_prefix :
    ∃ (q : XPathQuery) (r : Response), XPath.compile ⟨"/a/@xml:lang", []⟩ = .ok q ∧
      r.body = Text.Utf8.encode "<a xml:lang=\"en\"/>" ∧
      rule q r .present = .error (.aborted "/a/@xml:lang" "xml") ∧
      rule q r .absent = .error (.aborted "/a/@xml:lang" "xml") ∧
      (∀ found, ¬Finds q r (Engine.naturalMode q) found) ∧
      ∀ f, Fault q r (Engine.naturalMode q) f → f.kind = .aborted := by
  let q : XPathQuery := ⟨⟨"/a/@xml:lang", []⟩⟩
  let r : Response := { body := Text.Utf8.encode "<a xml:lang=\"en\"/>" }
  have compiled : XPath.compile ⟨"/a/@xml:lang", []⟩ = .ok q := by cbv
  have broke : find q r (Engine.naturalMode q) = .error (.aborted "/a/@xml:lang" "xml") := by cbv
  obtain ⟨present, absent⟩ := existence_of_fault (find_eq_error_iff.mp broke)
  refine ⟨q, r, compiled, rfl, present, absent, fun found finds => ?_, fun f fault => ?_⟩
  · cases broke.symm.trans (find_eq_ok_iff.mpr finds)
  · cases broke.symm.trans (find_eq_error_iff.mpr fault)
    rfl

end Question

end Exchange
