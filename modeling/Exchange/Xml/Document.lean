import Exchange.Text.Blank
import Exchange.Text.Shown

/-! # XML documents

Elements with attributes, texts, comments and processing instructions. A name is known by its
namespace and its local part; the prefix that a document happens to use for a namespace is kept
aside.
-/

namespace Exchange

/-- A name in a namespace, or in none. -/
structure XmlName where
  space : Option String
  localName : String
  deriving Repr, DecidableEq

namespace XmlName

/-- The name with its namespace in braces. -/
def text (n : XmlName) : String :=
  match n.space with
  | some uri => "\x7b" ++ uri ++ "\x7d" ++ n.localName
  | none => n.localName

end XmlName

/-- An attribute. -/
structure XmlAttribute where
  name : XmlName
  /-- The prefix that stands for its namespace. -/
  label : Option String
  value : String
  deriving Repr, DecidableEq

/-- A prefix that is in force and the namespace that it stands for. -/
structure XmlNamespace where
  label : String
  uri : String
  deriving Repr, DecidableEq

/-- What the start tag of an element says. -/
structure XmlTag where
  name : XmlName
  /-- The prefix that stands for its namespace. -/
  label : Option String
  attributes : List XmlAttribute
  /-- The prefixes that are in force at the element, each once. -/
  namespaces : List XmlNamespace
  deriving Repr, DecidableEq

/-- A part of a document. -/
inductive Xml where
  | element (tag : XmlTag) (children : List Xml)
  | text (s : String)
  | comment (s : String)
  | instruction (target : String) (value : String)

instance : Inhabited Xml := ⟨.text ""⟩

/-- A document: comments and processing instructions around one element. -/
structure XmlDocument where
  children : List Xml

/-- The element of a document. -/
def XmlDocument.root? (d : XmlDocument) : Option (XmlTag × List Xml) :=
  d.children.findSome? fun
    | .element tag children => some (tag, children)
    | _ => none

end Exchange
