import Mathlib
import Exchange.Matcher.Content
import Exchange.Proofs.Ruling
import Exchange.Proofs.Xml.Reader

/-! # Similar texts

Two XML texts are similar exactly if their elements have the same normal form. So similarity is an
equivalence on the texts that can be read, and a document may be respelled, with its attributes in
another order and other prefixes for its namespaces, without a change in what it is similar to.
-/

namespace Exchange

/-- The normal form of the element of a document. -/
def XmlDocument.form? (d : XmlDocument) : Option XmlForm :=
  d.root?.bind fun (tag, children) => (Xml.element tag children).form?

namespace Xml

/-- The same part of a document in another spelling: attributes may stand in another order, and
    prefixes may be others, at any depth. -/
inductive Respelled : Xml → Xml → Prop where
  | element {tag other : XmlTag} {children others : List Xml} (name : tag.name = other.name)
      (attributes : (tag.attributes.map XmlAttribute.entry).Perm
        (other.attributes.map XmlAttribute.entry))
      (below : List.Forall₂ Respelled children others) :
      Respelled (.element tag children) (.element other others)
  | text (s : String) : Respelled (.text s) (.text s)
  | comment (s : String) : Respelled (.comment s) (.comment s)
  | instruction (target value : String) :
      Respelled (.instruction target value) (.instruction target value)

mutual
theorem form?_of_respelled {x y : Xml} (same : x.Respelled y) (soundX : x.Sound) (soundY : y.Sound) :
    form? x = form? y := by
  cases same with
  | @element tag other children others name attributes below =>
      obtain ⟨tagX, belowX⟩ := soundX
      obtain ⟨tagY, belowY⟩ := soundY
      rw [form?_element, form?_element, name,
        (XmlTag.attribute?_eq_iff_perm tagX tagY).mpr attributes,
        forms_of_respelled below belowX belowY]
  | text => rfl
  | comment => rfl
  | instruction => rfl
termination_by sizeOf x

theorem forms_of_respelled {xs ys : List Xml} (same : List.Forall₂ Respelled xs ys)
    (soundX : ∀ x ∈ xs, x.Sound) (soundY : ∀ y ∈ ys, y.Sound) : forms xs = forms ys := by
  cases same with
  | nil => rfl
  | cons first rest =>
      obtain ⟨firstX, restX⟩ := List.forall_mem_cons.mp soundX
      obtain ⟨firstY, restY⟩ := List.forall_mem_cons.mp soundY
      rw [forms, forms, form?_of_respelled first firstX firstY, forms_of_respelled rest restX restY]
termination_by sizeOf xs
end

end Xml

namespace XmlDocument

/-- The same document in another spelling. -/
def Respelled (d other : XmlDocument) : Prop := List.Forall₂ Xml.Respelled d.children other.children

theorem root?_of_respelled {xs ys : List Xml} (same : List.Forall₂ Xml.Respelled xs ys)
    {tag : XmlTag} {children : List Xml} (root : root? ⟨xs⟩ = some (tag, children)) :
    ∃ other others, root? ⟨ys⟩ = some (other, others) ∧
      Xml.Respelled (.element tag children) (.element other others) := by
  induction same with
  | nil => cases root
  | cons first rest ih =>
      cases first with
      | element name attributes below =>
          cases root
          exact ⟨_, _, rfl, .element name attributes below⟩
      | text => exact ih root
      | comment => exact ih root
      | instruction => exact ih root

end XmlDocument

open ContentMatcher (similar)
open XPath (readDocument)

variable {s t u : String} {d d' : XmlDocument}

theorem XPath.readDocument_eq_ok_iff : readDocument s = .ok d ↔ Xml.read? s = some d := by
  rw [readDocument]
  cases Xml.read? s <;> simp

theorem exists_form_of_read (read : readDocument s = .ok d) :
    ∃ tag children, d.root? = some (tag, children) ∧ Xml.Sound (.element tag children) ∧
      d.form? = Xml.form? (.element tag children) := by
  obtain ⟨tag, children, root, sound⟩ := Xml.root_of_read? (XPath.readDocument_eq_ok_iff.mp read)
  refine ⟨tag, children, root, sound, ?_⟩
  rw [XmlDocument.form?, root]
  rfl

theorem similar_eq_pass_iff (read : readDocument s = .ok d) (read' : readDocument t = .ok d') :
    similar d d' = Ruling.pass ↔ d.form? = d'.form? := by
  obtain ⟨tag, children, root, sound, form⟩ := exists_form_of_read read
  obtain ⟨tag', children', root', sound', form'⟩ := exists_form_of_read read'
  rw [form, form', ← Xml.difference?_eq_none_iff [] sound sound' rfl rfl, similar,
    Xml.dissimilarity?, root, root']
  dsimp only
  rw [Xml.search_eq]
  cases Xml.difference? [] (.element tag children) (.element tag' children') <;> simp [Ruling.pass]

theorem xmlSimilar_eq_similar (read : readDocument s = .ok d) (read' : readDocument t = .ok d') :
    xmlSimilar s t = similar d d' := by
  rw [xmlSimilar, read, read']
  rfl

theorem similar_of_difference {e a : XmlTag} {es as : List Xml} {difference : Xml.Difference}
    (root : d.root? = some (e, es)) (root' : d'.root? = some (a, as))
    (found : Xml.difference? [] (.element e es) (.element a as) = some difference) :
    similar d d' = Ruling.fail (ContentMatcher.label ++ ", " ++ difference.words) := by
  simp only [similar, Xml.dissimilarity?, root, root', Xml.search_eq, found]
  rfl

theorem form?_of_respelled (same : d.Respelled d') (read : readDocument s = .ok d)
    (read' : readDocument t = .ok d') : d.form? = d'.form? := by
  obtain ⟨tag, children, root, sound, form⟩ := exists_form_of_read read
  obtain ⟨tag', children', root', sound', form'⟩ := exists_form_of_read read'
  obtain ⟨other, others, found, respelled⟩ := XmlDocument.root?_of_respelled same root
  cases root'.symm.trans found
  rw [form, form', Xml.form?_of_respelled respelled sound sound']

theorem xmlSimilar_eq_pass_iff : xmlSimilar s t = Ruling.pass ↔
    ∃ d d', readDocument s = .ok d ∧ readDocument t = .ok d' ∧ d.form? = d'.form? := by
  simp only [xmlSimilar, Ruling.pass, bind_eq_ok_iff]
  constructor
  · rintro ⟨d, read, d', read', passed⟩
    exact ⟨d, d', read, read', (similar_eq_pass_iff read read').mp passed⟩
  · rintro ⟨d, d', read, read', same⟩
    exact ⟨d, read, d', read', (similar_eq_pass_iff read read').mpr same⟩

theorem xmlSimilar_comm : xmlSimilar s t = Ruling.pass ↔ xmlSimilar t s = Ruling.pass := by
  rw [xmlSimilar_eq_pass_iff, xmlSimilar_eq_pass_iff]
  constructor
  · rintro ⟨d, d', read, read', same⟩
    exact ⟨d', d, read', read, same.symm⟩
  · rintro ⟨d', d, read', read, same⟩
    exact ⟨d, d', read, read', same.symm⟩

theorem xmlSimilar_eq_pass_iff_of_read_left (read : readDocument s = .ok d) :
    xmlSimilar s t = Ruling.pass ↔ ∃ e, readDocument t = .ok e ∧ d.form? = e.form? := by
  rw [xmlSimilar_eq_pass_iff]
  constructor
  · rintro ⟨d', e, read', readE, same⟩
    cases read.symm.trans read'
    exact ⟨e, readE, same⟩
  · rintro ⟨e, readE, same⟩
    exact ⟨d, e, read, readE, same⟩

theorem xmlSimilar_eq_pass_iff_of_read (read : readDocument s = .ok d)
    (read' : readDocument t = .ok d') : xmlSimilar s t = Ruling.pass ↔ d.form? = d'.form? := by
  rw [xmlSimilar_eq_pass_iff_of_read_left read]
  constructor
  · rintro ⟨e, readE, same⟩
    cases read'.symm.trans readE
    exact same
  · exact fun same => ⟨d', read', same⟩

/-- Two texts that can be read both have an element, and they are similar exactly if the elements
    have the same normal form. Hence similarity is reflexive, symmetric and transitive, and a text
    may be exchanged for another spelling of the same document on either side. -/
theorem xmlSimilar_iff_sameForm (read : readDocument s = .ok d) (read' : readDocument t = .ok d') :
    (∃ form form', d.form? = some form ∧ d'.form? = some form' ∧
      (xmlSimilar s t = Ruling.pass ↔ form = form')) ∧
    xmlSimilar s s = Ruling.pass ∧
    (xmlSimilar s t = Ruling.pass → xmlSimilar t s = Ruling.pass) ∧
    (∀ u, xmlSimilar s t = Ruling.pass → xmlSimilar t u = Ruling.pass →
      xmlSimilar s u = Ruling.pass) ∧
    ∀ respelled other, readDocument respelled = .ok other → d.Respelled other →
      (xmlSimilar respelled t = Ruling.pass ↔ xmlSimilar s t = Ruling.pass) ∧
      (xmlSimilar t respelled = Ruling.pass ↔ xmlSimilar t s = Ruling.pass) := by
  refine ⟨?_, ?_, ?_, ?_, ?_⟩
  · obtain ⟨tag, children, -, -, form⟩ := exists_form_of_read read
    obtain ⟨tag', children', -, -, form'⟩ := exists_form_of_read read'
    refine ⟨_, _, form, form', ?_⟩
    rw [xmlSimilar_eq_pass_iff_of_read read read', form, form', Xml.form?_element,
      Xml.form?_element, Option.some_inj]
  · exact (xmlSimilar_eq_pass_iff_of_read read read).mpr rfl
  · rw [xmlSimilar_eq_pass_iff_of_read read read', xmlSimilar_eq_pass_iff_of_read read' read]
    exact Eq.symm
  · intro u first second
    obtain ⟨e, e', readE, readE', same⟩ := xmlSimilar_eq_pass_iff.mp second
    cases read'.symm.trans readE
    rw [xmlSimilar_eq_pass_iff_of_read read read'] at first
    exact (xmlSimilar_eq_pass_iff_of_read read readE').mpr (first.trans same)
  · intro respelled other readOther same
    have sameForm := form?_of_respelled same read readOther
    rw [xmlSimilar_eq_pass_iff_of_read readOther read', xmlSimilar_eq_pass_iff_of_read read read',
      xmlSimilar_eq_pass_iff_of_read read' readOther, xmlSimilar_eq_pass_iff_of_read read' read,
      sameForm]
    exact ⟨Iff.rfl, Iff.rfl⟩

/-- Another order, another prefix and a comment make no difference, and another namespace does. -/
theorem xmlSimilar_iff_sameForm_respelled :
    ∃ d other, readDocument "<a x='1' p:y='2' xmlns:p='u'> t </a>" = .ok d ∧
      readDocument "<a q:y='2' xmlns:q='u' x='1'> t </a>" = .ok other ∧ d.Respelled other ∧
      xmlSimilar "<a q:y='2' xmlns:q='u' x='1'> t </a>" "<a x='1' p:y='2' xmlns:p='u'> t </a>" =
        Ruling.pass ∧
      xmlSimilar "<a x='1' p:y='2' xmlns:p='u'> t </a>" "<a x='1' y='2'>t<!--c--></a>" ≠
        Ruling.pass := by
  let tag : XmlTag := ⟨⟨none, "a"⟩, none, [⟨⟨none, "x"⟩, none, "1"⟩, ⟨⟨some "u", "y"⟩, some "p", "2"⟩],
    [Xml.ownNamespace, ⟨"p", "u"⟩]⟩
  let respelled : XmlTag :=
    ⟨⟨none, "a"⟩, none, [⟨⟨none, "x"⟩, none, "1"⟩, ⟨⟨some "u", "y"⟩, some "q", "2"⟩],
      [Xml.ownNamespace, ⟨"q", "u"⟩]⟩
  let other : XmlTag := ⟨⟨none, "a"⟩, none, [⟨⟨none, "x"⟩, none, "1"⟩, ⟨⟨none, "y"⟩, none, "2"⟩],
    [Xml.ownNamespace]⟩
  have read : readDocument "<a x='1' p:y='2' xmlns:p='u'> t </a>" =
      .ok ⟨[.element tag [.text " t "]]⟩ := by cbv
  have readRespelled : readDocument "<a q:y='2' xmlns:q='u' x='1'> t </a>" =
      .ok ⟨[.element respelled [.text " t "]]⟩ := by cbv
  have readOther : readDocument "<a x='1' y='2'>t<!--c--></a>" =
      .ok ⟨[.element other [.text "t", .comment "c"]]⟩ := by cbv
  have same : Xml.Respelled (.element tag [.text " t "]) (.element respelled [.text " t "]) :=
    .element rfl (by decide +kernel) (.cons (.text _) .nil)
  refine ⟨_, _, read, readRespelled, .cons same .nil, ?_, ?_⟩
  · obtain ⟨-, reflexive, -, -, exchange⟩ := xmlSimilar_iff_sameForm read read
    exact (exchange _ _ readRespelled (.cons same .nil)).1.mpr reflexive
  · obtain ⟨⟨form, form', formed, formed', similar⟩, -⟩ := xmlSimilar_iff_sameForm read readOther
    intro passed
    cases formed
    cases formed'
    have attributes := (XmlForm.element.inj (similar.mp passed)).2.1
    have missing := congrFun attributes ⟨some "u", "y"⟩
    revert missing
    decide +kernel

end Exchange
