import Mathlib
import Exchange.Xml.Similar

/-! # The stack of names

The search for a difference puts the names of the elements that it enters on a stack, and takes a
name off again when the elements do not differ. So a search that finds nothing leaves the stack as it
was, and one that finds a difference leaves the names down to it. `difference?` is the same search
without a stack: it hands the names down instead.
-/

namespace Exchange.Xml

mutual
/-- The first difference of two parts below the element that a path leads to. -/
def difference? (above : List XmlName) (expected actual : Xml) : Option Difference :=
  match expected, actual with
  | element e es, element a as =>
    let path := above ++ [a.name]
    let expectedCount := es.countP isSignificant
    let actualChildren := as.filter isSignificant
    if e.name.text ≠ a.name.text then some ⟨.name e.name a.name, path⟩
    else if sortedAttributes e ≠ sortedAttributes a then
      some ⟨.attributes (sortedAttributes e) (sortedAttributes a), path⟩
    else if expectedCount ≠ actualChildren.length then
      some ⟨.childCount expectedCount actualChildren.length, path⟩
    else childDifference? path es actualChildren
  | text e, text a =>
    if Text.trim e = Text.trim a then none
    else some ⟨.text (Text.trim e) (Text.trim a), above⟩
  | _, _ => some ⟨.kind, above⟩

/-- The first difference of two lists of children below the element that a path leads to. -/
def childDifference? (path : List XmlName) (expected actual : List Xml) : Option Difference :=
  match expected, actual with
  | e :: es, as =>
    if !isSignificant e then childDifference? path es as
    else match as with
      | a :: as => difference? path e a <|> childDifference? path es as
      | [] => none
  | [], _ => none
end

section

variable {location stack path : List XmlName} {e a : Xml} {es as : List Xml}

theorem searchChildren_nil : searchChildren location stack [] as = (none, stack) := by
  cases as <;> rfl

theorem searchChildren_of_not_significant (insignificant : isSignificant e = false) :
    searchChildren location stack (e :: es) as = searchChildren location stack es as := by
  cases as <;> simp [searchChildren, insignificant]

theorem searchChildren_nil_right : searchChildren location stack es [] = (none, stack) := by
  induction es with
  | nil => rfl
  | cons e es ih => simp [searchChildren, ih]

theorem searchChildren_cons (significant : isSignificant e = true) :
    searchChildren location stack (e :: es) (a :: as) =
      match search location stack e a with
      | (none, stack) => searchChildren location stack es as
      | found => found := by
  rw [searchChildren, significant]
  rfl

theorem childDifference?_of_not_significant (insignificant : isSignificant e = false) :
    childDifference? path (e :: es) as = childDifference? path es as := by
  cases as <;> simp [childDifference?, insignificant]

theorem childDifference?_nil_right : childDifference? path es [] = none := by
  induction es with
  | nil => rfl
  | cons e es ih => simp [childDifference?, ih]

theorem childDifference?_cons (significant : isSignificant e = true) :
    childDifference? path (e :: es) (a :: as) =
      (difference? path e a <|> childDifference? path es as) := by
  rw [childDifference?, significant]
  rfl

end

mutual
/-- A search that finds no difference leaves the stack as it was. -/
theorem search_restores {location stack : List XmlName} {e a : Xml}
    (same : (search location stack e a).1 = none) : (search location stack e a).2 = stack := by
  cases e with
  | element e es =>
      cases a with
      | element a as =>
          rw [search] at same ⊢
          split_ifs at same ⊢
          -- What is taken off is the name that was put on, since the children leave no other.
          have below : (searchChildren (stack ++ [a.name]) (stack ++ [a.name]) es
              (as.filter isSignificant)).1 = none → (searchChildren (stack ++ [a.name])
                (stack ++ [a.name]) es (as.filter isSignificant)).2 = stack ++ [a.name] :=
            searchChildren_restores
          generalize searchChildren (stack ++ [a.name]) (stack ++ [a.name]) es
            (as.filter isSignificant) = result at same below ⊢
          obtain ⟨_ | d, left⟩ := result
          · cases below rfl
            exact List.dropLast_concat
          · cases same
      | text | comment | instruction => cases same
  | text s =>
      cases a with
      | text t =>
          rw [search] at same ⊢
          split_ifs at same ⊢
          rfl
      | element | comment | instruction => cases same
  | comment | instruction => cases a <;> cases same
termination_by sizeOf e

theorem searchChildren_restores {location stack : List XmlName} {es as : List Xml}
    (same : (searchChildren location stack es as).1 = none) :
    (searchChildren location stack es as).2 = stack := by
  cases es with
  | nil => rw [searchChildren_nil]
  | cons e es =>
      cases significant : isSignificant e with
      | false =>
          rw [searchChildren_of_not_significant significant] at same ⊢
          exact searchChildren_restores same
      | true =>
          cases as with
          | nil => rw [searchChildren_nil_right]
          | cons a as =>
              rw [searchChildren_cons significant] at same ⊢
              have first : (search location stack e a).1 = none →
                  (search location stack e a).2 = stack := search_restores
              generalize search location stack e a = result at same first ⊢
              obtain ⟨_ | d, left⟩ := result
              · cases first rfl
                exact searchChildren_restores same
              · cases same
termination_by sizeOf es
end

mutual
/-- The search on a stack finds what is found without one, and what it leaves on the stack is the path
    to the difference. -/
theorem search_eq (path : List XmlName) (e a : Xml) : search path path e a =
    (difference? path e a, ((difference? path e a).map Difference.path).getD path) := by
  cases e with
  | element e es =>
      cases a with
      | element a as =>
          rw [search, difference?]
          split_ifs
          · rfl
          · rfl
          · rfl
          · rw [searchChildren_eq]
            cases childDifference? (path ++ [a.name]) es (as.filter isSignificant) with
            | none => exact congrArg (none, ·) List.dropLast_concat
            | some d => rfl
      | text | comment | instruction => rfl
  | text s =>
      cases a with
      | text t =>
          rw [search, difference?]
          split <;> rfl
      | element | comment | instruction => rfl
  | comment | instruction => cases a <;> rfl
termination_by sizeOf e

theorem searchChildren_eq (path : List XmlName) (es as : List Xml) :
    searchChildren path path es as =
      (childDifference? path es as,
        ((childDifference? path es as).map Difference.path).getD path) := by
  cases es with
  | nil => cases as <;> rfl
  | cons e es =>
      cases significant : isSignificant e with
      | false =>
          rw [searchChildren_of_not_significant significant,
            childDifference?_of_not_significant significant]
          exact searchChildren_eq path es as
      | true =>
          cases as with
          | nil =>
              rw [searchChildren_nil_right, childDifference?_nil_right]
              rfl
          | cons a as =>
              rw [searchChildren_cons significant, childDifference?_cons significant, search_eq]
              cases difference? path e a with
              | none => exact searchChildren_eq path es as
              | some d => rfl
termination_by sizeOf es
end

end Exchange.Xml
