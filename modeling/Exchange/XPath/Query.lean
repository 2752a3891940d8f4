import Exchange.Query.Engine
import Exchange.Xml.Reader
import Exchange.XPath.Cache
import Exchange.XPath.Eval
import Exchange.XPath.Prefixes

/-! # XPath queries

XPath expressions as queries on XML documents. Every prefix that an expression uses needs a
namespace, which is checked before anything else. A query keeps the text of its expression, and what
is built from the text may come from a cache; `compile` and `evaluate` start with an empty one.
-/

namespace Exchange

/-- The kinds of nodes that are told apart. -/
inductive XmlNodeKind where
  | root
  | element
  | attribute
  | text
  | other
  deriving Repr, DecidableEq

/-- The kind in words. -/
def XmlNodeKind.words : XmlNodeKind → String
  | .root => "Root"
  | .element => "Element"
  | .attribute => "Attribute"
  | .text => "Text"
  | .other => "Other"

/-- A node of an XML document by itself. Elements and attributes have names. -/
structure XmlNode where
  kind : XmlNodeKind
  name : Option String
  value : String
  deriving Repr, DecidableEq

instance : Query.IsNode XmlNode where
  shown n :=
    "XmlNode \x7b kind: " ++ n.kind.words ++ ", name: " ++ shown n.name ++ ", value: " ++
      shown n.value ++ " \x7d"
  text n := n.value

/-- A query in XPath. -/
structure XPathQuery where
  expression : Query.Expression
  deriving Repr, DecidableEq

namespace XPath

open Query (Mode Found)

/-- A node of a tree by itself. -/
def snapshot (t : Tree) (n : Nat) : XmlNode :=
  let node := t.node n
  let name := node.name.map XmlName.text
  match node.kind with
  | .root => ⟨.root, none, t.text n⟩
  | .element => ⟨.element, name, t.text n⟩
  | .attribute => ⟨.attribute, name, t.text n⟩
  | .text => ⟨.text, none, t.text n⟩
  | .namespace | .comment | .instruction => ⟨.other, none, t.text n⟩

/-- The prefix that XML itself binds. -/
def reservedLabel : String := "xml"

/-- The first prefix of an expression that has no namespace. -/
def unboundPrefix? (e : Query.Expression) : Option String :=
  (prefixes e.text).find? fun p => p != reservedLabel && (e.namespaces.find? p).isNone

/-- Compile an expression with a cache. -/
def compileIn (cache : Cache) (e : Query.Expression) : Except Failure XPathQuery × Cache :=
  match unboundPrefix? e with
  | some p => (.error (.compile .xpath e.text (.unboundPrefix p)), cache)
  | none =>
    let (built, cache) := cache.build e.text
    match built with
    | .ok _ => (.ok ⟨e⟩, cache)
    | .error fault => (.error (.compile .xpath e.text fault), cache)

/-- Compile an expression. -/
def compile (e : Query.Expression) : Except Failure XPathQuery := (compileIn [] e).1

/-- A value in words, for a message about its kind. -/
def Value.words : Value → String
  | .nodes _ => "a node set"
  | .string s => shown s
  | .number x => Number.Layout.plain.write x
  | .boolean b => shown b

/-- A value as what a mode asks for. -/
def coerce (t : Tree) (e : Query.Expression) (value : Value) (mode : Mode) :
    Except Failure (Found XmlNode) :=
  match mode, value with
  | .singleNode, .nodes ns => match ns.head? with
    | some n => .ok (.node (snapshot t n))
    | none => .ok .absent
  | .nodeSet, .nodes ns => .ok (.nodes (ns.map (snapshot t)))
  | .singleNode, value | .nodeSet, value => .error (.coercion e.text value.words mode)
  | .string, value => .ok (.string (value.toText t))
  | .number, value =>
    let x := value.toFloat t
    if x.isNaN then .error (.coercion e.text (shown (value.toText t)) mode) else .ok (.number x)
  | .boolean, .boolean b => .ok (.boolean b)
  | .boolean, value => match Query.readBoolean? (value.toText t) with
    | some b => .ok (.boolean b)
    | none => .error (.coercion e.text (shown (value.toText t)) mode)

/-- What an expression is evaluated in: the document, and the namespaces of its prefixes. -/
def environment (q : XPathQuery) (document : XmlDocument) : Environment :=
  ⟨Tree.ofDocument document, q.expression.namespaces⟩

/-- What an expression without a value fails with. A prefix without a namespace breaks the evaluation
    off where a name is compared with it; every other fault is reported. -/
def failure (text : String) : Fault → Failure
  | .unboundPrefix label => .aborted text label
  | .unknownFunction _ | .unknownVariable _ | .argumentCount _ | .notNodes => .evaluation text

/-- Evaluate a query with a cache. -/
def evaluateIn (cache : Cache) (q : XPathQuery) (document : XmlDocument) (mode : Mode) :
    Except Failure (Found XmlNode) × Cache :=
  let text := q.expression.text
  let (built, cache) := cache.build text
  match built with
  | .error fault => (.error (.compile .xpath text fault), cache)
  | .ok e =>
    let env := environment q document
    match XPath.evaluate env e with
    | .error fault => (.error (failure text fault), cache)
    | .ok value => (coerce env.tree q.expression value mode, cache)

/-- Read a content as a document. -/
def readDocument (content : String) : Except Failure XmlDocument :=
  match Xml.read? content with
  | some document => .ok document
  | none => .error (.content .xml)

end XPath

instance : Query.Engine XPathQuery XmlDocument XmlNode where
  language := .xpath
  compile := XPath.compile
  expression := XPathQuery.expression
  read := XPath.readDocument
  evaluate q document mode := (XPath.evaluateIn [] q document mode).1
  naturalMode _ := .nodeSet

end Exchange
