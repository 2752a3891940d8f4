import Exchange.Failure

/-! # Values of queries

What a query finds: nothing, a node, some nodes, or a text, number or truth value. A value exists if
it is there and is no empty sequence, be it of nodes or a single node that is an empty sequence
itself. `mustExist` and `mustNotExist` are the two expectations about that.
-/

namespace Exchange.Query

/-- Nodes that a query can find. -/
class IsNode (Node : Type) extends Shown Node where
  /-- The text of a node. -/
  text : Node → String
  /-- The number of items of a node that is a sequence itself. -/
  itemCount? : Node → Option Nat := fun _ => none

/-- The value of a query. -/
inductive Found (Node : Type) where
  | absent
  | node (node : Node)
  | nodes (nodes : List Node)
  | string (text : String)
  | number (x : Float)
  | boolean (b : Bool)

namespace Found

variable {Node : Type}

/-- The value as a single node, of several the first. -/
def node? : Found Node → Option Node
  | node n => some n
  | nodes ns => ns.head?
  | _ => none

/-- The value as a list of nodes. -/
def nodeList : Found Node → List Node
  | node n => [n]
  | nodes ns => ns
  | _ => []

/-- The value as a text. -/
def text? [IsNode Node] : Found Node → Option String
  | string s => some s
  | node n => some (IsNode.text n)
  | _ => none

/-- The value as a number. -/
def number? : Found Node → Option Float
  | number x => some x
  | _ => none

/-- The value as a truth value. -/
def boolean? : Found Node → Option Bool
  | boolean b => some b
  | _ => none

/-- The value in words. -/
def words [IsNode Node] : Found Node → String
  | absent => "<absent>"
  | node n => shown (IsNode.text n)
  | nodes ns => shown (ns.map IsNode.text)
  | string s => shown s
  | number x => Number.Layout.plain.write x
  | boolean b => shown b

/-- Is the value there, and no empty sequence? -/
def present [IsNode Node] : Found Node → Bool
  | absent => false
  | node n => IsNode.itemCount? n != some 0
  | nodes ns => !ns.isEmpty
  | _ => true

end Found

/-- The value that an expression finds has to exist. -/
def mustExist {Node : Type} [IsNode Node] (language : Language) (expression : String)
    (value : Found Node) : Ruling :=
  Ruling.require value.present ("No value at " ++ language.name ++ " " ++ expression)

/-- The value that an expression finds must not exist. -/
def mustNotExist {Node : Type} [IsNode Node] (language : Language) (expression : String)
    (value : Found Node) : Ruling :=
  Ruling.require (!value.present)
    ("Expected no value at " ++ language.name ++ " " ++ expression ++ " but found: " ++ value.words)

/-- The truth value that a text spells. -/
def readBoolean? (text : String) : Option Bool :=
  match Text.trim text with
  | "true" => some true
  | "false" => some false
  | _ => none

end Exchange.Query
