import Exchange.Xml.Document

/-! # Similar documents

Two documents are similar when their elements agree in name, attributes and significant children,
and so on downwards. Comments, processing instructions and blank texts are not significant, and
neither are prefixes, the order of attributes and blanks around a text. `Xml.search` looks for the
first place where two elements differ, with the names on the way there on a stack.
-/

namespace Exchange.Xml

/-- How two elements differ, with their texts or counts: the expected one first. -/
inductive Discrepancy where
  | name (expected actual : XmlName)
  | attributes (expected actual : List (String × String))
  | childCount (expected actual : Nat)
  | text (expected actual : String)
  /-- A text stands against an element. -/
  | kind
  deriving Repr, DecidableEq

/-- A discrepancy and where it is: the names from the root down to the element, in the actual
    document. -/
structure Difference where
  discrepancy : Discrepancy
  path : List XmlName
  deriving Repr, DecidableEq

/-- Is the part an element or a text that is not blank? -/
def isSignificant : Xml → Bool
  | element .. => true
  | text s => Text.trim s != ""
  | _ => false

/-- Names with values are ordered by name and then by value. -/
def precedes (a b : String × String) : Bool := a.1 < b.1 || (a.1 == b.1 && a.2 ≤ b.2)

/-- The names and values of attributes in order. -/
def sortedAttributes (tag : XmlTag) : List (String × String) :=
  (tag.attributes.map fun a => (a.name.text, a.value)).mergeSort precedes

mutual
/-- The first difference of two parts, and the stack of names that the search leaves. The name of the
    actual element is put on the stack before the elements are looked at, and it is taken off again
    only if they do not differ. `location` is what was on the stack when the parent was entered. -/
def search (location stack : List XmlName) (expected actual : Xml) :
    Option Difference × List XmlName :=
  match expected, actual with
  | element e es, element a as =>
    let stack := stack ++ [a.name]
    let expectedCount := es.countP isSignificant
    let actualChildren := as.filter isSignificant
    if e.name.text ≠ a.name.text then (some ⟨.name e.name a.name, stack⟩, stack)
    else if sortedAttributes e ≠ sortedAttributes a then
      (some ⟨.attributes (sortedAttributes e) (sortedAttributes a), stack⟩, stack)
    else if expectedCount ≠ actualChildren.length then
      (some ⟨.childCount expectedCount actualChildren.length, stack⟩, stack)
    else match searchChildren stack stack es actualChildren with
      | (none, stack) => (none, stack.dropLast)
      | found => found
  | text e, text a =>
    if Text.trim e = Text.trim a then (none, stack)
    else (some ⟨.text (Text.trim e) (Text.trim a), location⟩, stack)
  | _, _ => (some ⟨.kind, location⟩, stack)

/-- The first difference of two lists of children, and the stack that the search leaves; those on the
    right are significant ones only. -/
def searchChildren (location stack : List XmlName) (expected actual : List Xml) :
    Option Difference × List XmlName :=
  match expected, actual with
  | e :: es, as =>
    if !isSignificant e then searchChildren location stack es as
    else match as with
      | a :: as => match search location stack e a with
        | (none, stack) => searchChildren location stack es as
        | found => found
      | [] => (none, stack)
  | [], _ => (none, stack)
end

/-- The discrepancy in words. -/
def Discrepancy.words : Discrepancy → String
  | name expected actual =>
    "expected element <" ++ expected.text ++ "> but was <" ++ actual.text ++ ">"
  | attributes expected actual =>
    "expected attributes " ++ shown expected ++ " but was " ++ shown actual
  | childCount expected actual =>
    "expected " ++ shown expected ++ " child node(s) but was " ++ shown actual
  | text expected actual => "expected text " ++ shown expected ++ " but was " ++ shown actual
  | kind => "expected node types to match"

/-- The difference in words. -/
def Difference.words (d : Difference) : String :=
  d.discrepancy.words ++ " at /" ++ "/".intercalate (d.path.map XmlName.text)

/-- Why two documents are not similar. -/
inductive Dissimilarity where
  /-- Their elements differ. -/
  | elements (difference : Difference)
  /-- Only the expected document has an element. -/
  | noRoot
  deriving Repr, DecidableEq

/-- The dissimilarity in words. -/
def Dissimilarity.words : Dissimilarity → String
  | elements difference => difference.words
  | noRoot => "no root element"

/-- Why two documents are not similar, if they are not. Nothing is expected of the actual document
    if the expected one has no element. -/
def dissimilarity? (expected actual : XmlDocument) : Option Dissimilarity :=
  match expected.root?, actual.root? with
  | some (e, es), some (a, as) => (search [] [] (.element e es) (.element a as)).1.map .elements
  | some _, none => some .noRoot
  | none, _ => none

end Exchange.Xml
