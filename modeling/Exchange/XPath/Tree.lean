import Exchange.Xml.Document
import Exchange.XPath.Expr

/-! # The nodes of a document

A document as a list of nodes in document order: a node is known by its place in the list, and the
nodes below a node follow it without a gap. An element is followed by its namespaces, then by its
attributes, the last one first, and then by its children.
-/

namespace Exchange.XPath

/-- The kinds of nodes. -/
inductive NodeKind where
  | root
  | element
  | namespace
  | attribute
  | text
  | comment
  | instruction
  deriving Repr, DecidableEq

/-- Namespaces and attributes belong to an element and are not its children. -/
def NodeKind.isAttached : NodeKind → Bool
  | .namespace | .attribute => true
  | _ => false

/-- A node. Its neighbours are given by their places. -/
structure Node where
  kind : NodeKind
  name : Option XmlName := none
  /-- The prefix that stands for its namespace, or the target of a processing instruction. -/
  label : Option String := none
  /-- The text of the node itself. -/
  content : String := ""
  parent : Option Nat := none
  namespaces : List Nat := []
  attributes : List Nat := []
  children : List Nat := []
  /-- The place behind the last node below this one. -/
  stop : Nat
  deriving Repr, DecidableEq

/-- The nodes of a document in document order. -/
structure Tree where
  nodes : Array Node

mutual
/-- The number of nodes that a part of a document has. -/
def nodeCount : Xml → Nat
  | .element tag children => 1 + tag.namespaces.length + tag.attributes.length + nodeCounts children
  | _ => 1

/-- The number of nodes that some parts have. -/
def nodeCounts : List Xml → Nat
  | [] => 0
  | x :: rest => nodeCount x + nodeCounts rest
end

/-- The places of parts that follow each other from a place on. -/
def placesFrom (start : Nat) : List Xml → List Nat
  | [] => []
  | x :: rest => start :: placesFrom (start + nodeCount x) rest

mutual
/-- The nodes of a part of a document at a place. -/
def nodesOf (parent place : Nat) : Xml → List Node
  | .element tag children =>
    let before := place + tag.namespaces.length
    let count := tag.attributes.length
    let first := before + count + 1
    { kind := .element
      name := some tag.name
      label := tag.label
      parent := some parent
      namespaces := List.range' (place + 1) tag.namespaces.length
      attributes := (List.range count).map (before + count - ·)
      children := placesFrom first children
      stop := first + nodeCounts children } ::
    (tag.namespaces.zipIdx (place + 1)).map (fun (n, here) =>
      { kind := .namespace
        name := some ⟨none, n.label⟩
        content := n.uri
        parent := some place
        stop := here + 1 }) ++
    (tag.attributes.reverse.zipIdx (before + 1)).map (fun (a, here) =>
      { kind := .attribute
        name := some a.name
        label := a.label
        content := a.value
        parent := some place
        stop := here + 1 }) ++
    nodesOfAll place first children
  | .text s => [{ kind := .text, content := s, parent := some parent, stop := place + 1 }]
  | .comment s => [{ kind := .comment, content := s, parent := some parent, stop := place + 1 }]
  | .instruction target value =>
    [{ kind := .instruction, label := some target, content := value, parent := some parent,
       stop := place + 1 }]

/-- The nodes of parts that follow each other from a place on. -/
def nodesOfAll (parent place : Nat) : List Xml → List Node
  | [] => []
  | x :: rest => nodesOf parent place x ++ nodesOfAll parent (place + nodeCount x) rest
end

namespace Tree

/-- The nodes of a document; the root stands first. -/
def ofDocument (d : XmlDocument) : Tree :=
  let top : Node :=
    { kind := .root, children := placesFrom 1 d.children, stop := 1 + nodeCounts d.children }
  ⟨(top :: nodesOfAll 0 1 d.children).toArray⟩

/-- What stands where there is no node. -/
def nowhere : Node := { kind := .text, stop := 0 }

/-- The node at a place. -/
def node (t : Tree) (n : Nat) : Node := t.nodes[n]?.getD nowhere

/-- The nodes below a node, without namespaces and attributes. -/
def below (t : Tree) (n : Nat) : List Nat :=
  (List.range' (n + 1) ((t.node n).stop - (n + 1))).filter fun m => !(t.node m).kind.isAttached

/-- The nodes above a node, the nearest first; `fuel` bounds their number. -/
def aboveFrom (t : Tree) : Nat → Nat → List Nat
  | 0, _ => []
  | fuel + 1, n => match (t.node n).parent with
    | some p => p :: aboveFrom t fuel p
    | none => []

/-- The nodes above a node, the nearest first. -/
def above (t : Tree) (n : Nat) : List Nat := t.aboveFrom (n + 1) n

/-- The text of a node: of the root and of elements all the text below. -/
def text (t : Tree) (n : Nat) : String :=
  match (t.node n).kind with
  | .root | .element =>
    String.join (((t.below n).filter fun m => (t.node m).kind = .text).map fun m =>
      (t.node m).content)
  | _ => (t.node n).content

/-- The children of a node's parent; namespaces and attributes are no children. -/
def siblings (t : Tree) (n : Nat) : List Nat :=
  if (t.node n).kind.isAttached then []
  else match (t.node n).parent with
    | some p => (t.node p).children
    | none => []

/-- The node itself, or the element of a namespace or an attribute. -/
def owner (t : Tree) (n : Nat) : Nat :=
  if (t.node n).kind.isAttached then (t.node n).parent.getD n else n

/-- The nodes that are reached along an axis, in the order in which it goes. -/
def along (t : Tree) (n : Nat) : Axis → List Nat
  | .ancestor => t.above n
  | .ancestorOrSelf => n :: t.above n
  | .attribute => (t.node n).attributes
  | .child => (t.node n).children
  | .descendant => t.below n
  | .descendantOrSelf => n :: t.below n
  | .following =>
    let first := (t.node (t.owner n)).stop
    (List.range' first (t.nodes.size - first)).filter fun m => !(t.node m).kind.isAttached
  | .followingSibling => (t.siblings n).filter (n < ·)
  | .namespace => (t.node n).namespaces
  | .parent => (t.node n).parent.toList
  | .preceding =>
    let above := t.above (t.owner n)
    ((List.range (t.owner n)).filter fun m =>
      !(t.node m).kind.isAttached && !above.contains m).reverse
  | .precedingSibling => ((t.siblings n).filter (· < n)).reverse
  | .self => [n]

/-- The name of a node with a prefix. -/
def writtenName (t : Tree) (n : Nat) : String :=
  let node := t.node n
  match node.name, node.label with
  | some name, some label => label ++ ":" ++ name.localName
  | some name, none => name.localName
  | none, some target => target
  | none, none => ""

/-- The local part of a node's name. -/
def localName (t : Tree) (n : Nat) : String :=
  match (t.node n).name, (t.node n).label with
  | some name, _ => name.localName
  | none, some target => target
  | none, none => ""

/-- The namespace of a node's name. -/
def namespaceUri (t : Tree) (n : Nat) : String := ((t.node n).name.bind (·.space)).getD ""

end Tree

/-- Nodes in document order, each once. -/
def inOrder (nodes : List Nat) : List Nat :=
  (nodes.mergeSort (· ≤ ·)).foldr (fun n rest => if rest.head? = some n then rest else n :: rest) []

end Exchange.XPath
