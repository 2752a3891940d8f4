import Mathlib
import Exchange.Proofs.Xml.Similar

/-! # The first difference of two documents

A place in a document is the list of the child numbers that lead to it, where only significant
children are counted, and places stand in document order: an element before all that is below it,
and that before the next sibling. Two documents that are not similar have a first place where their
parts differ in themselves, and the failure names that difference and the elements down to it.
-/

namespace Exchange.Xml

/-- The children of an element that count. -/
def significantChildren : Xml → List Xml
  | element _ children => children.filter isSignificant
  | _ => []

/-- The way to a part: the number of a significant child on each level. -/
abbrev Place := List Nat

/-- The part at a place. -/
def at? : Xml → Place → Option Xml
  | x, [] => some x
  | x, i :: place => x.significantChildren[i]?.bind fun y => y.at? place

/-- The name of an element. -/
def name? : Xml → Option XmlName
  | element tag _ => some tag.name
  | _ => none

/-- The names of the elements at some places. -/
def namesAt (x : Xml) (places : List Place) : List XmlName :=
  places.filterMap fun place => (x.at? place).bind name?

variable {x y : Xml}

theorem at?_cons {i : Nat} {place : Place} {z : Xml} : x.at? (i :: place) = some z ↔
    ∃ child, x.significantChildren[i]? = some child ∧ child.at? place = some z :=
  Option.bind_eq_some_iff

theorem namesAt_root (x : Xml) (places : List Place) :
    x.namesAt ([] :: places) = x.name?.toList ++ x.namesAt places := by
  have root : (x.at? []).bind name? = x.name? := rfl
  rw [namesAt, List.filterMap_cons, root]
  cases x.name? <;> rfl

theorem namesAt_cons {i : Nat} (child : x.significantChildren[i]? = some y) (places : List Place) :
    x.namesAt (places.map (i :: ·)) = y.namesAt places := by
  rw [namesAt, List.filterMap_map, namesAt]
  refine congrFun (congrArg _ (funext fun place => ?_)) places
  rw [Function.comp_apply, at?, child]
  rfl

/-- How two corresponding parts differ in themselves: elements by their names, or else by their
    attributes, or else by the number of their significant children. -/
inductive Mismatch : Xml → Xml → Discrepancy → Prop
  | name {e a : XmlTag} {es as : List Xml} (names : e.name.text ≠ a.name.text) :
      Mismatch (element e es) (element a as) (.name e.name a.name)
  | attributes {e a : XmlTag} {es as : List Xml} (name : e.name.text = a.name.text)
      (attributes : sortedAttributes e ≠ sortedAttributes a) :
      Mismatch (element e es) (element a as)
        (.attributes (sortedAttributes e) (sortedAttributes a))
  | childCount {e a : XmlTag} {es as : List Xml} (name : e.name.text = a.name.text)
      (attributes : sortedAttributes e = sortedAttributes a)
      (count : (element e es).significantChildren.length ≠
        (element a as).significantChildren.length) :
      Mismatch (element e es) (element a as)
        (.childCount (element e es).significantChildren.length
          (element a as).significantChildren.length)
  | text {s t : String} (texts : Text.trim s ≠ Text.trim t) :
      Mismatch (text s) (text t) (.text (Text.trim s) (Text.trim t))
  | textForElement {s : String} {a : XmlTag} {as : List Xml} :
      Mismatch (text s) (element a as) .kind
  | elementForText {e : XmlTag} {es : List Xml} {t : String} :
      Mismatch (element e es) (text t) .kind

theorem Mismatch.unique {δ δ' : Discrepancy} (one : Mismatch x y δ) (other : Mismatch x y δ') :
    δ = δ' := by
  cases one <;> cases other <;> first | rfl | contradiction

/-- Nothing differs at a place, or there are no parts to compare. -/
def Clear (x y : Xml) (place : Place) : Prop :=
  ∀ e a δ, x.at? place = some e → y.at? place = some a → ¬Mismatch e a δ

/-- A mismatch with none before it in document order. -/
structure FirstMismatch (x y : Xml) (place : Place) (δ : Discrepancy) : Prop where
  here : ∃ e a, x.at? place = some e ∧ y.at? place = some a ∧ Mismatch e a δ
  first : ∀ before < place, Clear x y before

theorem FirstMismatch.unique {place place' : Place} {δ δ' : Discrepancy}
    (one : FirstMismatch x y place δ) (other : FirstMismatch x y place' δ') :
    place = place' ∧ δ = δ' := by
  obtain ⟨e, a, atE, atA, mismatch⟩ := one.here
  obtain ⟨e', a', atE', atA', mismatch'⟩ := other.here
  rcases lt_trichotomy place place' with before | rfl | after
  · exact absurd mismatch (other.first place before e a δ atE atA)
  · cases atE.symm.trans atE'
    cases atA.symm.trans atA'
    exact ⟨rfl, mismatch.unique mismatch'⟩
  · exact absurd mismatch' (one.first place' after e' a' δ' atE' atA')

/-- The elements that a failure names: those down to the place, but where texts or kinds of parts
    differ only those above it. -/
def namedPlaces (place : Place) : Discrepancy → List Place
  | .text .. | .kind => place.inits.dropLast
  | .name .. | .attributes .. | .childCount .. => place.inits

theorem dropLast_inits_cons (i : Nat) (place : Place) :
    (i :: place).inits.dropLast = [] :: place.inits.dropLast.map (i :: ·) := by
  have some : place.inits.map (i :: ·) ≠ [] := by cases place <;> simp
  rw [List.inits_cons, List.dropLast_cons_of_ne_nil some, List.map_dropLast]

theorem namedPlaces_cons (i : Nat) (place : Place) (δ : Discrepancy) :
    namedPlaces (i :: place) δ = [] :: (namedPlaces place δ).map (i :: ·) := by
  cases δ with
  | text | kind => rw [namedPlaces, namedPlaces, dropLast_inits_cons]
  | name | attributes | childCount => rw [namedPlaces, namedPlaces, List.inits_cons]

theorem findSome?_zip_eq_some {α β γ : Type} {f : α × β → Option γ} {as : List α} {bs : List β}
    {c : γ} (found : (as.zip bs).findSome? f = some c) :
    ∃ (i : Nat) (a : α) (b : β), as[i]? = some a ∧ bs[i]? = some b ∧ f (a, b) = some c ∧
      ∀ j < i, ∀ (a' : α) (b' : β), as[j]? = some a' → bs[j]? = some b' → f (a', b') = none := by
  obtain ⟨before, ⟨a, b⟩, after, split, here, none⟩ := List.findSome?_eq_some_iff.mp found
  have pair : (as.zip bs)[before.length]? = some (a, b) := by simp [split]
  obtain ⟨atA, atB⟩ := List.getElem?_zip_eq_some.mp pair
  refine ⟨before.length, a, b, atA, atB, here, fun j earlier a' b' atA' atB' => none _ ?_⟩
  have pair' : (as.zip bs)[j]? = some (a', b') := List.getElem?_zip_eq_some.mpr ⟨atA', atB'⟩
  rw [split, List.getElem?_append_left earlier] at pair'
  exact List.mem_of_getElem? pair'

theorem childDifference?_eq (path : List XmlName) (es as : List Xml) :
    childDifference? path es as =
      ((es.filter isSignificant).zip as).findSome? fun pair => difference? path pair.1 pair.2 := by
  induction es generalizing as with
  | nil => cases as <;> rfl
  | cons e es ih =>
      cases significant : isSignificant e with
      | false =>
          rw [childDifference?_of_not_significant significant, ih]
          simp [significant]
      | true =>
          cases as with
          | nil => simp [childDifference?, significant]
          | cons a as =>
              rw [childDifference?_cons significant, ih]
              simp only [List.filter_cons_of_pos significant, List.zip_cons_cons,
                List.findSome?_cons]
              cases difference? path e a <;> rfl

theorem difference?_of_mismatch {above : List XmlName} {e a : XmlTag} {es as : List Xml}
    {δ : Discrepancy} (mismatch : Mismatch (element e es) (element a as) δ) :
    difference? above (element e es) (element a as) = some ⟨δ, above ++ [a.name]⟩ := by
  rw [difference?]
  cases mismatch with
  | name names => rw [if_pos names]
  | attributes name attributes => rw [if_neg (not_not.mpr name), if_pos attributes]
  | childCount name attributes count =>
      simp only [significantChildren, ← List.countP_eq_length_filter] at count
      simp only [significantChildren, ← List.countP_eq_length_filter, ne_eq, name, attributes, count,
        not_true_eq_false, not_false_eq_true, ↓reduceIte]

theorem difference?_of_no_mismatch {above : List XmlName} {e a : XmlTag} {es as : List Xml}
    (same : ∀ δ, ¬Mismatch (element e es) (element a as) δ) :
    difference? above (element e es) (element a as) =
      ((element e es).significantChildren.zip (element a as).significantChildren).findSome?
        fun pair => difference? (above ++ [a.name]) pair.1 pair.2 := by
  have name : e.name.text = a.name.text := not_not.mp fun other => same _ (.name other)
  have attributes : sortedAttributes e = sortedAttributes a :=
    not_not.mp fun other => same _ (.attributes name other)
  have count : es.countP isSignificant = (as.filter isSignificant).length := by
    rw [List.countP_eq_length_filter]
    exact not_not.mp fun other => same _ (.childCount name attributes other)
  rw [difference?, if_neg (not_not.mpr name), if_neg (not_not.mpr attributes),
    if_neg (not_not.mpr count), childDifference?_eq]
  rfl

/-- All that a comparison can come to: the two parts differ in themselves, or else their children
    decide. -/
theorem difference?_cases (above : List XmlName) (significant : isSignificant x = true)
    (significant' : isSignificant y = true) :
    (∃ δ, Mismatch x y δ ∧
      difference? above x y = some ⟨δ, above ++ y.namesAt (namedPlaces [] δ)⟩) ∨
    ((∀ δ, ¬Mismatch x y δ) ∧ difference? above x y =
      (x.significantChildren.zip y.significantChildren).findSome? fun pair =>
        difference? (above ++ y.name?.toList) pair.1 pair.2) := by
  cases x with
  | element e es =>
      cases y with
      | element a as =>
          by_cases differ : ∃ δ, Mismatch (element e es) (element a as) δ
          · obtain ⟨δ, mismatch⟩ := differ
            refine .inl ⟨δ, mismatch, ?_⟩
            rw [difference?_of_mismatch mismatch]
            cases mismatch <;> rfl
          · have same := not_exists.mp differ
            exact .inr ⟨same, difference?_of_no_mismatch same⟩
      | text t =>
          refine .inl ⟨.kind, .elementForText, ?_⟩
          simp [difference?, namedPlaces, namesAt]
      | comment => cases significant'
      | instruction => cases significant'
  | text s =>
      cases y with
      | element a as =>
          refine .inl ⟨.kind, .textForElement, ?_⟩
          simp [difference?, namedPlaces, namesAt]
      | text t =>
          by_cases same : Text.trim s = Text.trim t
          · refine .inr ⟨?_, difference?_text_eq_none_iff.mpr same⟩
            rintro δ ⟨⟩
            contradiction
          · refine .inl ⟨_, .text same, ?_⟩
            simp [difference?, same, namedPlaces, namesAt]
      | comment => cases significant'
      | instruction => cases significant'
  | comment => cases significant
  | instruction => cases significant

theorem isSignificant_of_child {i : Nat} (child : x.significantChildren[i]? = some y) :
    isSignificant y = true := by
  cases x with
  | element tag children => exact List.of_mem_filter (List.mem_of_getElem? child)
  | _ => simp [significantChildren] at child

theorem sizeOf_child {i : Nat} (child : x.significantChildren[i]? = some y) :
    sizeOf y < sizeOf x := by
  cases x with
  | element tag children =>
      have smaller := List.sizeOf_lt_of_mem (List.mem_of_mem_filter (List.mem_of_getElem? child))
      simp only [element.sizeOf_spec]
      omega
  | _ => simp [significantChildren] at child

theorem no_mismatch_of_no_difference {above : List XmlName} (significant : isSignificant x = true)
    (significant' : isSignificant y = true) (unfound : difference? above x y = none) :
    (∀ δ, ¬Mismatch x y δ) ∧ ∀ (i : Nat) (child child' : Xml),
      x.significantChildren[i]? = some child → y.significantChildren[i]? = some child' →
        difference? (above ++ y.name?.toList) child child' = none := by
  rcases difference?_cases above significant significant' with ⟨δ, -, found⟩ | ⟨same, rest⟩
  · cases unfound.symm.trans found
  · refine ⟨same, fun i child child' inX inY => ?_⟩
    have pair := List.mem_of_getElem? (List.getElem?_zip_eq_some (z := ⟨child, child'⟩) |>.mpr ⟨inX, inY⟩)
    exact List.findSome?_eq_none_iff.mp (rest.symm.trans unfound) _ pair

theorem clear_of_no_difference {above : List XmlName} (significant : isSignificant x = true)
    (significant' : isSignificant y = true) (unfound : difference? above x y = none) (place : Place) :
    Clear x y place := by
  intro e a δ atE atA
  induction place generalizing x y above with
  | nil =>
      cases atE
      cases atA
      exact (no_mismatch_of_no_difference significant significant' unfound).1 δ
  | cons i place ih =>
      obtain ⟨child, inX, atE⟩ := at?_cons.mp atE
      obtain ⟨child', inY, atA⟩ := at?_cons.mp atA
      have unfound' := (no_mismatch_of_no_difference significant significant' unfound).2 i _ _ inX inY
      exact ih (isSignificant_of_child inX) (isSignificant_of_child inY) unfound' atE atA

/-- The difference that is found is the first mismatch, with the names of the elements down to it. -/
theorem firstMismatch_of_difference {x y : Xml} {above : List XmlName} {d : Difference}
    (significant : isSignificant x = true) (significant' : isSignificant y = true)
    (found : difference? above x y = some d) :
    ∃ place, FirstMismatch x y place d.discrepancy ∧
      d.path = above ++ y.namesAt (namedPlaces place d.discrepancy) := by
  rcases difference?_cases above significant significant' with ⟨δ, mismatch, here⟩ | ⟨same, rest⟩
  · cases found.symm.trans here
    refine ⟨[], ⟨⟨x, y, rfl, rfl, mismatch⟩, ?_⟩, rfl⟩
    exact fun before earlier => absurd earlier (List.not_lt_nil before)
  · obtain ⟨i, child, child', inX, inY, below, none⟩ :=
      findSome?_zip_eq_some (rest.symm.trans found)
    have smaller := sizeOf_child inX
    obtain ⟨place, mismatch, path⟩ := firstMismatch_of_difference (isSignificant_of_child inX)
      (isSignificant_of_child inY) below
    obtain ⟨e, a, atE, atA, here⟩ := mismatch.here
    refine ⟨i :: place, ⟨⟨e, a, at?_cons.mpr ⟨child, inX, atE⟩, at?_cons.mpr ⟨child', inY, atA⟩,
      here⟩, ?_⟩, ?_⟩
    · intro before earlier e a δ atE atA
      -- Before the place come the parent, all that is below earlier children, and places below
      -- this child.
      cases before with
      | nil =>
          cases atE
          cases atA
          exact same δ
      | cons j before =>
          obtain ⟨other, inX', atE⟩ := at?_cons.mp atE
          obtain ⟨other', inY', atA⟩ := at?_cons.mp atA
          rcases List.cons_lt_cons_iff.mp earlier with less | ⟨rfl, less⟩
          · exact clear_of_no_difference (isSignificant_of_child inX') (isSignificant_of_child inY')
              (none j less other other' inX' inY') before e a δ atE atA
          · cases inX.symm.trans inX'
            cases inY.symm.trans inY'
            exact mismatch.first before less e a δ atE atA
    · rw [path, namedPlaces_cons, namesAt_root, namesAt_cons inY, List.append_assoc]
termination_by sizeOf x

theorem difference?_eq_some_iff {e a : XmlTag} {es as : List Xml} {d : Difference} :
    difference? [] (element e es) (element a as) = some d ↔
      ∃ place, FirstMismatch (element e es) (element a as) place d.discrepancy ∧
        d.path = (element a as).namesAt (namedPlaces place d.discrepancy) := by
  constructor
  · exact firstMismatch_of_difference rfl rfl
  · rintro ⟨place, mismatch, path⟩
    cases found : difference? [] (element e es) (element a as) with
    | none =>
        obtain ⟨e', a', atE, atA, here⟩ := mismatch.here
        exact absurd here (clear_of_no_difference rfl rfl found place e' a' _ atE atA)
    | some d' =>
        obtain ⟨place', mismatch', path'⟩ := firstMismatch_of_difference rfl rfl found
        obtain ⟨rfl, same⟩ := mismatch.unique mismatch'
        obtain ⟨δ, names⟩ := d
        obtain ⟨δ', names'⟩ := d'
        cases same
        exact congrArg some (congrArg _ (path'.trans path.symm))

theorem at?_append (x : Xml) (place more : Place) :
    x.at? (place ++ more) = (x.at? place).bind fun y => y.at? more := by
  induction place generalizing x with
  | nil => rfl
  | cons i place ih =>
      rw [List.cons_append, at?, at?, Option.bind_assoc]
      exact congrArg _ (funext fun child => ih child)

theorem mem_dropLast_inits {place above : Place} (strict : above ∈ place.inits.dropLast) :
    ∃ i more, place = above ++ i :: more := by
  induction place generalizing above with
  | nil => cases strict
  | cons i place ih =>
      rw [dropLast_inits_cons] at strict
      rcases List.mem_cons.mp strict with rfl | later
      · exact ⟨i, place, rfl⟩
      · obtain ⟨above, strict', rfl⟩ := List.mem_map.mp later
        obtain ⟨j, more, rfl⟩ := ih strict'
        exact ⟨j, more, rfl⟩

theorem element_above {above more : Place} {i : Nat}
    (found : x.at? (above ++ i :: more) = some y) :
    ∃ tag children, x.at? above = some (element tag children) := by
  rw [at?_append, Option.bind_eq_some_iff] at found
  obtain ⟨z, here, below⟩ := found
  obtain ⟨child, inZ, -⟩ := at?_cons.mp below
  cases z with
  | element tag children => exact ⟨tag, children, here⟩
  | _ => simp [significantChildren] at inZ

/-- The places that are named lead down to the mismatch, and an element stands at each. -/
theorem FirstMismatch.named {place : Place} {δ : Discrepancy} (mismatch : FirstMismatch x y place δ)
    {above : Place} (named : above ∈ namedPlaces place δ) :
    above <+: place ∧ ∃ tag children, y.at? above = some (element tag children) := by
  obtain ⟨e, a, -, atA, here⟩ := mismatch.here
  have inside (isElement : ∃ tag children, a = element tag children)
      (leads : above <+: place) :
      above <+: place ∧ ∃ tag children, y.at? above = some (element tag children) := by
    refine ⟨leads, ?_⟩
    obtain ⟨_ | ⟨i, more⟩, rfl⟩ := leads
    · obtain ⟨tag, children, rfl⟩ := isElement
      rw [List.append_nil] at atA
      exact ⟨tag, children, atA⟩
    · exact element_above atA
  have outside (strict : above ∈ place.inits.dropLast) :
      above <+: place ∧ ∃ tag children, y.at? above = some (element tag children) := by
    obtain ⟨i, more, rfl⟩ := mem_dropLast_inits strict
    exact ⟨List.prefix_append _ _, element_above atA⟩
  cases here with
  | name | attributes | childCount => exact inside ⟨_, _, rfl⟩ ((List.mem_inits _ _).mp named)
  | text | textForElement | elementForText => exact outside named

open ContentMatcher (similar)
open XPath (readDocument)

variable {s t : String} {d d' : XmlDocument}

theorem similar_of_no_difference {e a : XmlTag} {es as : List Xml}
    (root : d.root? = some (e, es)) (root' : d'.root? = some (a, as))
    (unfound : difference? [] (element e es) (element a as) = none) :
    similar d d' = Ruling.pass := by
  simp only [similar, dissimilarity?, root, root', search_eq, unfound]
  rfl

/-- Two texts that are read and not similar have a first mismatch in document order, and no other.
    The failure says how the parts differ there, and where by the names of the elements from the
    root down to it, in the actual document and so none of earlier siblings. These names are what the
    search leaves on its stack, since a search that finds no difference restores it. -/
theorem first_difference_reported (read : readDocument s = .ok d) (read' : readDocument t = .ok d')
    (different : xmlSimilar s t ≠ Ruling.pass) :
    ∃ e es a as place δ, d.root? = some (e, es) ∧ d'.root? = some (a, as) ∧
      FirstMismatch (element e es) (element a as) place δ ∧
      (∀ place' δ', FirstMismatch (element e es) (element a as) place' δ' →
        place' = place ∧ δ' = δ) ∧
      search [] [] (element e es) (element a as) =
        (some ⟨δ, (element a as).namesAt (namedPlaces place δ)⟩,
          (element a as).namesAt (namedPlaces place δ)) ∧
      (∀ location stack x y, (search location stack x y).1 = none →
        (search location stack x y).2 = stack) ∧
      xmlSimilar s t = Ruling.fail (ContentMatcher.label ++ ", " ++ (δ.words ++ " at /" ++
        "/".intercalate (((element a as).namesAt (namedPlaces place δ)).map XmlName.text))) ∧
      ∀ above ∈ namedPlaces place δ, above <+: place ∧
        ∃ tag children, (element a as).at? above = some (element tag children) := by
  obtain ⟨e, es, root, -, -⟩ := exists_form_of_read read
  obtain ⟨a, as, root', -, -⟩ := exists_form_of_read read'
  rw [xmlSimilar_eq_similar read read'] at different ⊢
  cases found : difference? [] (element e es) (element a as) with
  | none => exact absurd (similar_of_no_difference root root' found) different
  | some difference =>
      obtain ⟨place, mismatch, path⟩ := difference?_eq_some_iff.mp found
      refine ⟨e, es, a, as, place, difference.discrepancy, root, root', mismatch,
        fun place' δ' other => other.unique mismatch, ?_, fun _ _ _ _ => search_restores, ?_,
        fun above named => mismatch.named named⟩
      · rw [← path, search_eq, found]
        rfl
      · rw [← path]
        exact similar_of_difference root root' found

/-- The first children are alike and are not named; the second ones differ in a child of theirs. -/
theorem first_difference_reported_below_second_child :
    ∃ d d' e es a as place δ,
      readDocument "<r><a/><b><c/></b></r>" = .ok d ∧
      readDocument "<r><a/><b><d/></b></r>" = .ok d' ∧
      xmlSimilar "<r><a/><b><c/></b></r>" "<r><a/><b><d/></b></r>" ≠ Ruling.pass ∧
      d.root? = some (e, es) ∧ d'.root? = some (a, as) ∧
      FirstMismatch (element e es) (element a as) place δ ∧
      xmlSimilar "<r><a/><b><c/></b></r>" "<r><a/><b><d/></b></r>" = Ruling.fail
        "Response content, expected element <c> but was <d> at /r/b/d" := by
  let tag (name : String) : XmlTag := ⟨⟨none, name⟩, none, [], [ownNamespace]⟩
  have read : readDocument "<r><a/><b><c/></b></r>" = .ok ⟨[.element (tag "r")
      [.element (tag "a") [], .element (tag "b") [.element (tag "c") []]]]⟩ := by cbv
  have read' : readDocument "<r><a/><b><d/></b></r>" = .ok ⟨[.element (tag "r")
      [.element (tag "a") [], .element (tag "b") [.element (tag "d") []]]]⟩ := by cbv
  have found : difference? [] (.element (tag "r") [.element (tag "a") [],
        .element (tag "b") [.element (tag "c") []]])
      (.element (tag "r") [.element (tag "a") [], .element (tag "b") [.element (tag "d") []]]) =
        some ⟨.name ⟨none, "c"⟩ ⟨none, "d"⟩, [⟨none, "r"⟩, ⟨none, "b"⟩, ⟨none, "d"⟩]⟩ := by cbv
  have failed : xmlSimilar "<r><a/><b><c/></b></r>" "<r><a/><b><d/></b></r>" = Ruling.fail
      "Response content, expected element <c> but was <d> at /r/b/d" := by
    rw [xmlSimilar_eq_similar read read', similar_of_difference rfl rfl found]
    exact congrArg Ruling.fail (by decide +kernel)
  have different : xmlSimilar "<r><a/><b><c/></b></r>" "<r><a/><b><d/></b></r>" ≠ Ruling.pass := by
    rw [failed]
    exact Ruling.fail_ne_ok
  obtain ⟨e, es, a, as, place, δ, root, root', mismatch, -⟩ :=
    first_difference_reported read read' different
  exact ⟨_, _, e, es, a, as, place, δ, read, read', different, root, root', mismatch, failed⟩

end Exchange.Xml
