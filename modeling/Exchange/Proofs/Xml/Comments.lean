import Mathlib
import Exchange.Proofs.Text.Pieces
import Exchange.Proofs.Xml.Similar

/-! # Comments in similar documents

Comments and processing instructions are not significant, so between other parts they may be put
anywhere without a change in what a document is similar to. Within a text they cut it in two, and
each piece is a text of its own: that goes unnoticed only where one of the pieces is blank, and
otherwise the document is similar to nothing that it was similar to before.
-/

namespace Exchange

namespace Xml

/-- The pieces of a text, of which at least one is blank. -/
def AtBlank (s t : String) : Prop := Text.trim s = "" ∨ Text.trim t = ""

/-- Any pieces of a text. -/
def Anywhere (_ _ : String) : Prop := True

theorem trim_eq_empty_iff {s : String} :
    Text.trim s = "" ↔ ∀ c ∈ s.toList, Text.isBlank c = true := by
  rw [Text.trim, ← Text.trimChars_eq_nil_iff, ← String.toList_inj, String.toList_ofList]
  rfl

theorem trim_append_of_blank_left {s : String} (blank : Text.trim s = "") (t : String) :
    Text.trim (s ++ t) = Text.trim t := by
  have padded := Text.trimChars_padded t.toList (trim_eq_empty_iff.mp blank) (List.forall_mem_nil _)
  rw [List.append_nil] at padded
  rw [Text.trim, String.toList_append, padded, Text.trim]

theorem trim_append_of_blank_right (s : String) {t : String} (blank : Text.trim t = "") :
    Text.trim (s ++ t) = Text.trim s := by
  have padded := Text.trimChars_padded s.toList (List.forall_mem_nil _) (trim_eq_empty_iff.mp blank)
  rw [List.nil_append] at padded
  rw [Text.trim, String.toList_append, padded, Text.trim]

/-- Some parts with comments and processing instructions put in, at any depth: between the parts,
    or into a text, which is cut into two pieces of some kind. -/
inductive Commented (Cut : String → String → Prop) : List Xml → List Xml → Prop
  | nil : Commented Cut [] []
  | keep (x : Xml) {xs ys : List Xml} (rest : Commented Cut xs ys) :
      Commented Cut (x :: xs) (x :: ys)
  | element {tag : XmlTag} {children others xs ys : List Xml} (below : Commented Cut children others)
      (rest : Commented Cut xs ys) :
      Commented Cut (element tag children :: xs) (element tag others :: ys)
  | between {x : Xml} {xs ys : List Xml} (misc : IsMisc x) (rest : Commented Cut xs ys) :
      Commented Cut xs (x :: ys)
  | within {s t : String} {x : Xml} {xs ys : List Xml} (pieces : Cut s t) (misc : IsMisc x)
      (rest : Commented Cut (text t :: xs) ys) :
      Commented Cut (text (s ++ t) :: xs) (text s :: x :: ys)

variable {Cut : String → String → Prop} {xs ys : List Xml}

theorem forms_cons (x : Xml) (xs : List Xml) : forms (x :: xs) = (form? x).toList ++ forms xs := by
  rw [forms]
  cases form? x <;> rfl

theorem forms_of_misc {x : Xml} (misc : IsMisc x) (xs : List Xml) : forms (x :: xs) = forms xs := by
  cases misc <;> rfl

theorem form?_of_blank {s : String} (blank : Text.trim s = "") : form? (text s) = none :=
  if_pos blank

theorem form?_text_congr {s t : String} (same : Text.trim s = Text.trim t) :
    form? (text s) = form? (text t) := by
  rw [form?, form?, same]

/-- Comments that cut no text, or off a blank piece only, leave the normal forms as they are. -/
theorem forms_of_commented (commented : Commented AtBlank xs ys) : forms xs = forms ys := by
  induction commented with
  | nil => rfl
  | keep x rest ih => rw [forms_cons, forms_cons, ih]
  | element below rest ihBelow ih => rw [forms_cons, forms_cons, form?, form?, ihBelow, ih]
  | between misc rest ih => rw [forms_of_misc misc, ih]
  | @within s t x xs ys pieces misc rest ih =>
      rw [forms_cons (text s), forms_of_misc misc, ← ih, forms_cons, forms_cons (text t)]
      rcases pieces with blank | blank
      · rw [form?_of_blank blank, form?_text_congr (trim_append_of_blank_left blank t),
          Option.toList_none, List.nil_append]
      · rw [form?_of_blank blank, form?_text_congr (trim_append_of_blank_right s blank),
          Option.toList_none, List.nil_append]

end Xml

mutual
/-- The number of elements and texts in a normal form. -/
def XmlForm.size : XmlForm → Nat
  | element _ _ children => sizes children + 1
  | text _ => 1

/-- The number of elements and texts in some normal forms. -/
def XmlForm.sizes : List XmlForm → Nat
  | [] => 0
  | f :: rest => f.size + sizes rest
end

namespace Xml

/-- The number of elements and texts that are left of some parts in their normal forms. -/
def weight (xs : List Xml) : Nat := XmlForm.sizes (forms xs)

theorem weight_cons (x : Xml) (xs : List Xml) : weight (x :: xs) = weight [x] + weight xs := by
  simp only [weight, forms]
  cases form? x <;> simp [XmlForm.sizes]

theorem weight_element (tag : XmlTag) (children : List Xml) :
    weight [element tag children] = weight children + 1 := rfl

theorem weight_of_misc {x : Xml} (misc : IsMisc x) (xs : List Xml) :
    weight (x :: xs) = weight xs :=
  congrArg XmlForm.sizes (forms_of_misc misc xs)

theorem weight_text (s : String) : weight [text s] = XmlForm.sizes (form? (text s)).toList := by
  rw [weight, forms_cons]
  exact congrArg XmlForm.sizes (List.append_nil _)

theorem weight_of_blank {s : String} (blank : Text.trim s = "") : weight [text s] = 0 := by
  rw [weight_text, form?_of_blank blank]
  rfl

theorem weight_of_not_blank {s : String} (marked : Text.trim s ≠ "") : weight [text s] = 1 := by
  rw [weight_text, form?, if_neg marked]
  rfl

theorem weight_text_le (s : String) : weight [text s] ≤ 1 := by
  by_cases blank : Text.trim s = ""
  · simp [weight_of_blank blank]
  · simp [weight_of_not_blank blank]

theorem weight_text_congr {s t : String} (same : Text.trim s = Text.trim t) :
    weight [text s] = weight [text t] := by
  rw [weight_text, weight_text, form?_text_congr same]

theorem weight_append_le (s t : String) :
    weight [text (s ++ t)] ≤ weight [text s] + weight [text t] := by
  by_cases blank : Text.trim s = ""
  · rw [weight_text_congr (trim_append_of_blank_left blank t)]
    exact Nat.le_add_left _ _
  · rw [weight_of_not_blank blank]
    exact (weight_text_le _).trans (Nat.le_add_right _ _)

theorem weight_append_lt {s t : String} (marked : ¬AtBlank s t) :
    weight [text (s ++ t)] < weight [text s] + weight [text t] := by
  obtain ⟨first, second⟩ := not_or.mp marked
  rw [weight_of_not_blank first, weight_of_not_blank second]
  exact Nat.lt_succ_of_le (weight_text_le _)

theorem weight_le_of_commented (commented : Commented Cut xs ys) : weight xs ≤ weight ys := by
  induction commented with
  | nil => exact le_rfl
  | @keep x xs ys rest ih =>
      rw [weight_cons x xs, weight_cons x ys]
      exact Nat.add_le_add_left ih _
  | @element tag children others xs ys below rest ihBelow ih =>
      rw [weight_cons _ xs, weight_cons _ ys, weight_element, weight_element]
      omega
  | between misc rest ih => rwa [weight_of_misc misc]
  | @within s t x xs ys pieces misc rest ih =>
      have whole := weight_append_le s t
      rw [weight_cons _ xs] at ih
      rw [weight_cons _ xs, weight_cons _ (x :: ys), weight_of_misc misc]
      omega

/-- Comments that cut a text between pieces that are not blank leave more texts than there were. -/
theorem atBlank_or_weight_lt (commented : Commented Anywhere xs ys) :
    Commented AtBlank xs ys ∨ weight xs < weight ys := by
  induction commented with
  | nil => exact .inl .nil
  | @keep x xs ys rest ih =>
      rw [weight_cons x xs, weight_cons x ys]
      exact ih.imp (.keep x) (Nat.add_lt_add_left · _)
  | @element tag children others xs ys below rest ihBelow ih =>
      have lessBelow := weight_le_of_commented below
      have less := weight_le_of_commented rest
      rw [weight_cons _ xs, weight_cons _ ys, weight_element, weight_element]
      rcases ihBelow with harmless | more
      · exact ih.imp (.element harmless) (by omega)
      · exact .inr (by omega)
  | between misc rest ih => exact ih.imp (.between misc) (by rw [weight_of_misc misc]; exact id)
  | @within s t x xs ys pieces misc rest ih =>
      have whole := weight_append_le s t
      have less := weight_le_of_commented rest
      rw [weight_cons _ xs] at less ih
      rw [weight_cons _ xs, weight_cons _ (x :: ys), weight_of_misc misc]
      by_cases blank : AtBlank s t
      · exact ih.imp (.within blank misc) (by omega)
      · have cut := weight_append_lt blank
        exact .inr (by omega)

theorem forms_eq_iff_of_commented (commented : Commented Anywhere xs ys) :
    forms xs = forms ys ↔ Commented AtBlank xs ys := by
  refine ⟨fun same => ?_, forms_of_commented⟩
  rcases atBlank_or_weight_lt commented with harmless | more
  · exact harmless
  · rw [weight, weight, same] at more
    exact absurd more (lt_irrefl _)

end Xml

/-- A document with comments and processing instructions put into the content of its elements. What
    stands before and after its element may be anything. -/
def XmlDocument.Commented (Cut : String → String → Prop) (d d' : XmlDocument) : Prop :=
  ∃ tag children others, d.root? = some (tag, children) ∧ d'.root? = some (tag, others) ∧
    Xml.Commented Cut children others

open XPath (readDocument)

variable {s s' : String} {d d' : XmlDocument}

theorem form?_eq_iff_of_commented (commented : d.Commented Xml.Anywhere d') :
    d.form? = d'.form? ↔ d.Commented Xml.AtBlank d' := by
  obtain ⟨tag, children, others, root, root', below⟩ := commented
  have sameForms : d.form? = d'.form? ↔ Xml.forms children = Xml.forms others := by
    rw [XmlDocument.form?, XmlDocument.form?, root, root']
    simp [Xml.form?_element]
  rw [sameForms, Xml.forms_eq_iff_of_commented below]
  constructor
  · exact fun harmless => ⟨tag, children, others, root, root', harmless⟩
  · rintro ⟨tag', children', others', first, second, harmless⟩
    cases root.symm.trans first
    cases root'.symm.trans second
    exact harmless

/-- Comments and processing instructions that are put into a document go unnoticed exactly if they
    cut no text, or off a blank piece only: the document is then similar to what it was similar to
    before, on either side. Any others leave it similar to nothing that it was similar to. -/
theorem comments_unnoticed_iff (read : readDocument s = .ok d) (read' : readDocument s' = .ok d')
    (commented : d.Commented Xml.Anywhere d') :
    (xmlSimilar s s' = Ruling.pass ↔ d.Commented Xml.AtBlank d') ∧
    (d.Commented Xml.AtBlank d' → ∀ t,
      (xmlSimilar s' t = Ruling.pass ↔ xmlSimilar s t = Ruling.pass) ∧
      (xmlSimilar t s' = Ruling.pass ↔ xmlSimilar t s = Ruling.pass)) ∧
    (¬d.Commented Xml.AtBlank d' → ∀ t,
      (xmlSimilar s t = Ruling.pass → xmlSimilar s' t ≠ Ruling.pass) ∧
      (xmlSimilar t s = Ruling.pass → xmlSimilar t s' ≠ Ruling.pass)) := by
  rw [← form?_eq_iff_of_commented commented]
  refine ⟨xmlSimilar_eq_pass_iff_of_read read read', fun same t => ?_, fun different t => ?_⟩
  · have left : xmlSimilar s' t = Ruling.pass ↔ xmlSimilar s t = Ruling.pass := by
      rw [xmlSimilar_eq_pass_iff_of_read_left read, xmlSimilar_eq_pass_iff_of_read_left read', same]
    exact ⟨left, xmlSimilar_comm.trans (left.trans xmlSimilar_comm)⟩
  · -- what is similar to both documents has the normal form of both
    have left : xmlSimilar s t = Ruling.pass → xmlSimilar s' t ≠ Ruling.pass := by
      rw [ne_eq, xmlSimilar_eq_pass_iff_of_read_left read,
        xmlSimilar_eq_pass_iff_of_read_left read']
      rintro ⟨e, readE, same⟩ ⟨e', readE', same'⟩
      cases readE.symm.trans readE'
      exact different (same.trans same'.symm)
    exact ⟨left, fun passed => mt xmlSimilar_comm.mp (left (xmlSimilar_comm.mp passed))⟩

/-- Between blanks and a word, and between a word and an element, nothing is noticed. -/
theorem comments_unnoticed_iff_beside_word :
    ∃ d d', readDocument "<a> x<b/></a>" = .ok d ∧
      readDocument "<a> <!--c-->x<?p q?><b/></a>" = .ok d' ∧ d.Commented Xml.Anywhere d' ∧
      xmlSimilar "<a> x<b/></a>" "<a> <!--c-->x<?p q?><b/></a>" = Ruling.pass ∧
      xmlSimilar "<a> <!--c-->x<?p q?><b/></a>" "<a> x<b/></a>" = Ruling.pass := by
  let tag (name : String) : XmlTag := ⟨⟨none, name⟩, none, [], [Xml.ownNamespace]⟩
  have read : readDocument "<a> x<b/></a>" = .ok ⟨[.element (tag "a")
      [.text " x", .element (tag "b") []]]⟩ := by cbv
  have read' : readDocument "<a> <!--c-->x<?p q?><b/></a>" = .ok ⟨[.element (tag "a")
      [.text " ", .comment "c", .text "x", .instruction "p" "q", .element (tag "b") []]]⟩ := by cbv
  have commented (Cut : String → String → Prop) (pieces : Cut " " "x") :
      XmlDocument.Commented Cut ⟨[.element (tag "a") [.text " x", .element (tag "b") []]]⟩
        ⟨[.element (tag "a") [.text " ", .comment "c", .text "x", .instruction "p" "q",
          .element (tag "b") []]]⟩ :=
    ⟨_, _, _, rfl, rfl, .within pieces (.comment _)
      (.keep _ (.between (.instruction _ _) (.keep _ .nil)))⟩
  obtain ⟨similar, unnoticed, -⟩ :=
    comments_unnoticed_iff read read' (commented Xml.Anywhere trivial)
  have harmless := commented Xml.AtBlank (.inl (by decide +kernel))
  have reflexive := (xmlSimilar_eq_pass_iff_of_read read read).mpr rfl
  exact ⟨_, _, read, read', commented _ trivial, similar.mpr harmless,
    (unnoticed harmless _).1.mpr reflexive⟩

/-- A comment within a word makes two texts of it. -/
theorem comments_unnoticed_iff_within_word :
    ∃ d d', readDocument "<a>xy</a>" = .ok d ∧ readDocument "<a>x<!--c-->y</a>" = .ok d' ∧
      d.Commented Xml.Anywhere d' ∧
      xmlSimilar "<a>xy</a>" "<a>xy</a>" = Ruling.pass ∧
      xmlSimilar "<a>xy</a>" "<a>x<!--c-->y</a>" = Ruling.fail
        "Response content, expected 1 child node(s) but was 2 at /a" := by
  let tag : XmlTag := ⟨⟨none, "a"⟩, none, [], [Xml.ownNamespace]⟩
  have read : readDocument "<a>xy</a>" = .ok ⟨[.element tag [.text "xy"]]⟩ := by cbv
  have read' : readDocument "<a>x<!--c-->y</a>" =
      .ok ⟨[.element tag [.text "x", .comment "c", .text "y"]]⟩ := by cbv
  have pieces : Xml.Anywhere "x" "y" := trivial
  have commented : Xml.Commented Xml.Anywhere [.text "xy"] [.text "x", .comment "c", .text "y"] :=
    .within pieces (.comment _) (.keep _ .nil)
  have found : Xml.difference? [] (.element tag [.text "xy"])
      (.element tag [.text "x", .comment "c", .text "y"]) =
        some ⟨.childCount 1 2, [⟨none, "a"⟩]⟩ := by cbv
  refine ⟨_, _, read, read', ⟨tag, _, _, rfl, rfl, commented⟩, ?_, ?_⟩
  · exact (xmlSimilar_eq_pass_iff_of_read read read).mpr rfl
  · rw [xmlSimilar_eq_similar read read', similar_of_difference rfl rfl found]
    exact congrArg Ruling.fail (by decide +kernel)

end Exchange
