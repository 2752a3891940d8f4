import Mathlib
import Exchange.Proofs.Xml.Stack

/-! # The normal form of an XML element

What similarity looks at, as a value: the name of an element, its attributes as a map, and the
normal forms of its children, among which only elements and trimmed texts that are not blank are
left. Where names and attributes are as XML has them, two elements show no difference exactly if
they have the same normal form.
-/

namespace Exchange

/-- A text without the braces that set a namespace off in the text of a name. -/
structure Braceless (s : String) : Prop where
  opening : '\x7b' ∉ s.toList
  closing : '\x7d' ∉ s.toList

namespace XmlName

theorem append_cons_inj {c : Char} {before before' after after' : List Char} (last : c ∉ after)
    (last' : c ∉ after') (same : before ++ c :: after = before' ++ c :: after') :
    before = before' ∧ after = after' := by
  induction before generalizing before' with
  | nil =>
      cases before' with
      | nil => simpa using same
      | cons d rest =>
          have tail : after = rest ++ c :: after' := (List.cons.inj same).2
          simp [tail] at last
  | cons d rest ih =>
      cases before' with
      | nil =>
          have tail : rest ++ c :: after = after' := (List.cons.inj same).2
          simp [← tail] at last'
      | cons d' rest' =>
          obtain ⟨head, tail⟩ := List.cons.inj same
          obtain ⟨sameRest, sameAfter⟩ := ih tail
          exact ⟨congrArg₂ _ head sameRest, sameAfter⟩

theorem toList_text_some (uri localName : String) : (text ⟨some uri, localName⟩).toList =
    '\x7b' :: (uri.toList ++ '\x7d' :: localName.toList) := by
  simp [text, String.toList_append]

theorem text_inj {n m : XmlName} (plain : Braceless n.localName)
    (plain' : Braceless m.localName) :
    n.text = m.text ↔ n = m := by
  refine ⟨fun same => ?_, congrArg text⟩
  rw [← String.toList_inj] at same
  obtain ⟨space, localName⟩ := n
  obtain ⟨space', localName'⟩ := m
  cases space with
  | none =>
      cases space' with
      | none => exact congrArg _ (String.toList_inj.mp same)
      | some uri' =>
          rw [toList_text_some] at same
          exact absurd (List.mem_of_mem_head? (congrArg List.head? same)) plain.opening
  | some uri =>
      cases space' with
      | none =>
          rw [toList_text_some] at same
          exact absurd (List.mem_of_mem_head? (congrArg List.head? same.symm)) plain'.opening
      | some uri' =>
          rw [toList_text_some, toList_text_some] at same
          obtain ⟨uris, locals⟩ :=
            append_cons_inj plain.closing plain'.closing (List.cons.inj same).2
          cases String.toList_inj.mp uris
          cases String.toList_inj.mp locals
          rfl

end XmlName

/-- A tag as XML has it: names have no braces, and no name is that of two attributes. -/
structure XmlTag.Sound (tag : XmlTag) : Prop where
  name : Braceless tag.name.localName
  attributes : ∀ a ∈ tag.attributes, Braceless a.name.localName
  distinct : (tag.attributes.map XmlAttribute.name).Nodup

/-- The value of the attribute of a name. -/
def XmlTag.attribute? (tag : XmlTag) (n : XmlName) : Option String :=
  (tag.attributes.find? fun a => a.name = n).map XmlAttribute.value

/-- What an attribute says, whatever its prefix. -/
def XmlAttribute.entry (a : XmlAttribute) : XmlName × String := (a.name, a.value)

namespace XmlTag

variable {tag other : XmlTag}

theorem attribute?_eq_some_iff (sound : tag.Sound) {n : XmlName} {value : String} :
    tag.attribute? n = some value ↔ (n, value) ∈ tag.attributes.map XmlAttribute.entry := by
  have distinct := sound.distinct
  simp only [attribute?, Option.map_eq_some_iff, List.mem_map, XmlAttribute.entry, Prod.mk.injEq]
  constructor
  · rintro ⟨a, found, rfl⟩
    have named : a.name = n := by simpa using List.find?_some found
    exact ⟨a, List.mem_of_find?_eq_some found, named, rfl⟩
  · rintro ⟨a, member, rfl, rfl⟩
    obtain ⟨b, found⟩ : ∃ b, (tag.attributes.find? fun b => b.name = a.name) = some b := by
      rw [← Option.isSome_iff_exists, List.find?_isSome]
      exact ⟨a, member, by simp⟩
    have named : b.name = a.name := by simpa using List.find?_some found
    have same := List.inj_on_of_nodup_map distinct (List.mem_of_find?_eq_some found) member named
    exact ⟨b, found, congrArg XmlAttribute.value same⟩

theorem nodup_entries (sound : tag.Sound) : (tag.attributes.map XmlAttribute.entry).Nodup := by
  apply List.Nodup.of_map Prod.fst
  rw [List.map_map]
  exact sound.distinct

/-- Where no name is that of two attributes, their order is all that the map of them leaves out. -/
theorem attribute?_eq_iff_perm (sound : tag.Sound) (sound' : other.Sound) :
    tag.attribute? = other.attribute? ↔
      (tag.attributes.map XmlAttribute.entry).Perm (other.attributes.map XmlAttribute.entry) := by
  rw [List.perm_ext_iff_of_nodup (nodup_entries sound) (nodup_entries sound')]
  constructor
  · rintro same ⟨n, value⟩
    rw [← attribute?_eq_some_iff sound, ← attribute?_eq_some_iff sound', same]
  · intro same
    funext n
    apply Option.ext
    intro value
    rw [attribute?_eq_some_iff sound, attribute?_eq_some_iff sound', same]

end XmlTag

namespace Xml

theorem precedes_iff {a b : String × String} :
    precedes a b = true ↔ a.1 < b.1 ∨ (a.1 = b.1 ∧ a.2 ≤ b.2) := by
  simp [precedes]

theorem precedes_trans (a b c : String × String) (first : precedes a b = true)
    (second : precedes b c = true) : precedes a c = true := by
  rw [precedes_iff] at *
  rcases first with less | ⟨same, le⟩
  · rcases second with less' | ⟨same', -⟩
    · exact .inl (less.trans less')
    · exact .inl (same' ▸ less)
  · rcases second with less' | ⟨same', le'⟩
    · exact .inl (same ▸ less')
    · exact .inr ⟨same.trans same', le.trans le'⟩

theorem precedes_total (a b : String × String) : (precedes a b || precedes b a) = true := by
  rw [Bool.or_eq_true, precedes_iff, precedes_iff]
  rcases lt_trichotomy a.1 b.1 with less | same | greater
  · exact .inl (.inl less)
  · exact (le_total a.2 b.2).imp (fun le => .inr ⟨same, le⟩) (fun ge => .inr ⟨same.symm, ge⟩)
  · exact .inr (.inl greater)

theorem precedes_antisymm {a b : String × String} (first : precedes a b = true)
    (second : precedes b a = true) : a = b := by
  rw [precedes_iff] at first second
  rcases first with less | ⟨same, le⟩
  · rcases second with less' | ⟨same', -⟩
    · exact absurd (less.trans less') (lt_irrefl _)
    · exact absurd (same' ▸ less) (lt_irrefl _)
  · rcases second with less' | ⟨-, ge⟩
    · exact absurd (same ▸ less') (lt_irrefl _)
    · exact Prod.ext same (le_antisymm le ge)

theorem mergeSort_eq_iff_perm {xs ys : List (String × String)} :
    xs.mergeSort precedes = ys.mergeSort precedes ↔ xs.Perm ys := by
  constructor
  · intro same
    exact (List.mergeSort_perm xs precedes).symm.trans
      (same ▸ List.mergeSort_perm ys precedes)
  · intro perm
    have sorted := List.pairwise_mergeSort precedes_trans precedes_total
    apply List.Perm.eq_of_pairwise (fun a b _ _ => precedes_antisymm) (sorted xs) (sorted ys)
    exact (List.mergeSort_perm xs precedes).trans (perm.trans (List.mergeSort_perm ys precedes).symm)

theorem mem_entries_of_subset_texts {tag other : XmlTag} (sound : tag.Sound) (sound' : other.Sound)
    (texts : (tag.attributes.map fun a => (a.name.text, a.value)) ⊆
      other.attributes.map fun a => (a.name.text, a.value)) :
    tag.attributes.map XmlAttribute.entry ⊆ other.attributes.map XmlAttribute.entry := by
  intro entry member
  obtain ⟨a, inTag, rfl⟩ := List.mem_map.mp member
  obtain ⟨b, inOther, same⟩ := List.mem_map.mp (texts (List.mem_map.mpr ⟨a, inTag, rfl⟩))
  obtain ⟨sameText, sameValue⟩ := Prod.mk.inj same
  have sameName := (XmlName.text_inj (sound'.attributes b inOther) (sound.attributes a inTag)).mp
    sameText
  exact List.mem_map.mpr ⟨b, inOther, Prod.ext sameName sameValue⟩

theorem sortedAttributes_eq_iff {tag other : XmlTag} (sound : tag.Sound) (sound' : other.Sound) :
    sortedAttributes tag = sortedAttributes other ↔ tag.attribute? = other.attribute? := by
  rw [sortedAttributes, sortedAttributes, mergeSort_eq_iff_perm,
    XmlTag.attribute?_eq_iff_perm sound sound']
  constructor
  · intro perm
    rw [List.perm_ext_iff_of_nodup (XmlTag.nodup_entries sound) (XmlTag.nodup_entries sound')]
    intro entry
    constructor
    · exact fun member => mem_entries_of_subset_texts sound sound' perm.subset member
    · exact fun member => mem_entries_of_subset_texts sound' sound perm.symm.subset member
  · intro perm
    have texts := perm.map fun entry => (entry.1.text, entry.2)
    rwa [List.map_map, List.map_map] at texts

end Xml

/-- An element or a text as similarity sees it. -/
inductive XmlForm where
  | element (name : XmlName) (attributes : XmlName → Option String) (children : List XmlForm)
  | text (s : String)

namespace Xml

mutual
/-- The normal form of an element or of a text that is not blank; other parts have none. -/
def form? : Xml → Option XmlForm
  | element tag children => some (.element tag.name tag.attribute? (forms children))
  | text s => if Text.trim s = "" then none else some (.text (Text.trim s))
  | comment _ => none
  | instruction .. => none

/-- The normal forms of those of some parts that have one. -/
def forms : List Xml → List XmlForm
  | [] => []
  | x :: rest =>
    match form? x with
    | some f => f :: forms rest
    | none => forms rest
end

theorem form?_element (tag : XmlTag) (children : List Xml) :
    form? (element tag children) = some (.element tag.name tag.attribute? (forms children)) := rfl

theorem form?_text_of_significant {s : String} (significant : isSignificant (text s) = true) :
    form? (text s) = some (.text (Text.trim s)) :=
  if_neg (by simpa [isSignificant] using significant)

theorem isSome_form? (x : Xml) : (form? x).isSome = isSignificant x := by
  cases x with
  | element => rfl
  | text s =>
      rw [form?]
      by_cases blank : Text.trim s = "" <;> simp [isSignificant, blank]
  | comment => rfl
  | instruction => rfl

theorem exists_form {x : Xml} (significant : isSignificant x = true) : ∃ f, form? x = some f := by
  rwa [← Option.isSome_iff_exists, isSome_form?]

theorem forms_eq_filterMap (xs : List Xml) : forms xs = xs.filterMap form? := by
  induction xs with
  | nil => rfl
  | cons x rest ih =>
      rw [forms, ih, List.filterMap_cons]
      cases form? x <;> rfl

theorem length_forms (xs : List Xml) : (forms xs).length = xs.countP isSignificant := by
  simp only [forms_eq_filterMap, List.length_filterMap_eq_countP, isSome_form?]

theorem forms_filter (xs : List Xml) : forms (xs.filter isSignificant) = forms xs := by
  simp only [forms_eq_filterMap, List.filterMap_filter, ← isSome_form?]
  congr 1
  funext x
  cases form? x <;> rfl

/-- Every element in a part of a document is as XML has it. -/
inductive Sound : Xml → Prop where
  | element {tag : XmlTag} {children : List Xml} (ownTag : tag.Sound)
      (below : ∀ x ∈ children, Sound x) : Sound (.element tag children)
  | text (s : String) : Sound (.text s)
  | comment (s : String) : Sound (.comment s)
  | instruction (target value : String) : Sound (.instruction target value)

theorem difference?_element_eq_none_iff {path : List XmlName} {e a : XmlTag} {es as : List Xml} :
    difference? path (element e es) (element a as) = none ↔
      e.name.text = a.name.text ∧ sortedAttributes e = sortedAttributes a ∧
      es.countP isSignificant = (as.filter isSignificant).length ∧
      childDifference? (path ++ [a.name]) es (as.filter isSignificant) = none := by
  rw [difference?]
  split_ifs <;> simp_all

theorem difference?_text_eq_none_iff {path : List XmlName} {s t : String} :
    difference? path (text s) (text t) = none ↔ Text.trim s = Text.trim t := by
  rw [difference?]
  split_ifs <;> simp_all

theorem childDifference?_cons_eq_none_iff {path : List XmlName} {e a : Xml} {es as : List Xml}
    (significant : isSignificant e = true) : childDifference? path (e :: es) (a :: as) = none ↔
      difference? path e a = none ∧ childDifference? path es as = none := by
  rw [childDifference?_cons significant]
  simp

mutual
/-- Two elements or texts show no difference exactly if they have the same normal form. -/
theorem difference?_eq_none_iff (path : List XmlName) {e a : Xml} (soundE : e.Sound)
    (soundA : a.Sound) (significantE : isSignificant e = true)
    (significantA : isSignificant a = true) :
    difference? path e a = none ↔ form? e = form? a := by
  cases soundE with
  | @element e es tagE belowE =>
      cases soundA with
      | @element a as tagA belowA =>
          have below : ∀ x ∈ as.filter isSignificant, x.Sound :=
            fun x member => belowA x (List.mem_of_mem_filter member)
          have children := childDifference?_eq_none_iff (path ++ [a.name]) belowE below
            (fun x member => List.of_mem_filter member)
          have sameForms : (es.countP isSignificant = (as.filter isSignificant).length ∧
              childDifference? (path ++ [a.name]) es (as.filter isSignificant) = none) ↔
                forms es = forms as := by
            rw [forms_filter] at children
            constructor
            · rintro ⟨count, none⟩
              exact (children count).mp none
            · intro same
              have count : es.countP isSignificant = (as.filter isSignificant).length := by
                rw [← length_forms, same, length_forms, List.countP_eq_length_filter]
              exact ⟨count, (children count).mpr same⟩
          rw [difference?_element_eq_none_iff, sameForms, XmlName.text_inj tagE.name tagA.name,
            sortedAttributes_eq_iff tagE tagA, form?_element, form?_element]
          simp
      | text t =>
          rw [form?_element, form?_text_of_significant significantA]
          simp [difference?]
      | comment => simp [isSignificant] at significantA
      | instruction => simp [isSignificant] at significantA
  | text s =>
      cases soundA with
      | element tagA belowA =>
          rw [form?_element, form?_text_of_significant significantE]
          simp [difference?]
      | text t =>
          rw [form?_text_of_significant significantE, form?_text_of_significant significantA,
            difference?_text_eq_none_iff]
          simp
      | comment => simp [isSignificant] at significantA
      | instruction => simp [isSignificant] at significantA
  | comment => simp [isSignificant] at significantE
  | instruction => simp [isSignificant] at significantE
termination_by sizeOf e

theorem childDifference?_eq_none_iff (path : List XmlName) {es as : List Xml}
    (soundE : ∀ e ∈ es, e.Sound) (soundA : ∀ a ∈ as, a.Sound)
    (significantA : ∀ a ∈ as, isSignificant a = true)
    (count : es.countP isSignificant = as.length) :
    childDifference? path es as = none ↔ forms es = forms as := by
  cases es with
  | nil =>
      have empty : as = [] := by simpa using count.symm
      simp [empty, childDifference?]
  | cons e es =>
      obtain ⟨firstSound, restSound⟩ := List.forall_mem_cons.mp soundE
      cases significant : isSignificant e with
      | false =>
          have rest := childDifference?_eq_none_iff path restSound soundA significantA
            (by simpa [significant] using count)
          have none : form? e = none := by
            rw [← Option.isNone_iff_eq_none, ← Option.isSome_eq_false_iff, isSome_form?]
            exact significant
          rw [childDifference?_of_not_significant significant, rest]
          simp [forms_eq_filterMap, none]
      | true =>
          cases as with
          | nil => simp [significant] at count
          | cons a as =>
              obtain ⟨firstSoundA, restSoundA⟩ := List.forall_mem_cons.mp soundA
              obtain ⟨firstSignificant, restSignificant⟩ := List.forall_mem_cons.mp significantA
              have first :=
                difference?_eq_none_iff path firstSound firstSoundA significant firstSignificant
              have rest := childDifference?_eq_none_iff path restSound restSoundA restSignificant
                (by simpa [significant] using count)
              obtain ⟨f, form⟩ := exists_form significant
              obtain ⟨g, form'⟩ := exists_form firstSignificant
              rw [childDifference?_cons_eq_none_iff significant, first, rest]
              simp [forms_eq_filterMap, form, form']
termination_by sizeOf es
end

end Xml

end Exchange
