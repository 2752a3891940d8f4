import Exchange.Data.Table
import Exchange.XPath.Function

/-! # Evaluating XPath expressions

An expression is evaluated at a node of a document, with namespaces for its prefixes. A step takes
every node reached so far, goes along its axis, and counts positions in the order of the axis.

Evaluation stands for that of the package `sxd-xpath`. Of it is assumed that it knows the prefixes of
its environment and no others, that it breaks off where the name of a node is tested for a prefix
that it does not know, and that the first of the nodes of a value is the head of its document order.
-/

namespace Exchange.XPath

/-- What an evaluation is about: the document, and the namespaces of prefixes. -/
structure Environment where
  tree : Tree
  namespaces : Table String

/-- Does a name test accept a name? -/
def nameAccepted (env : Environment) (test : QName) (name : XmlName) : Except Fault Bool :=
  let localAccepted := test.localName == "*" || test.localName == name.localName
  match test.label with
  | some l => match env.namespaces.find? l with
    | some uri => .ok (name.space == some uri && localAccepted)
    | none => .error (.unboundPrefix l)
  | none => .ok (test.localName == "*" || (name.space == none && localAccepted))

/-- The kind of the nodes that a name stands for on an axis. -/
def Axis.principalKind : Axis → NodeKind
  | .attribute => .attribute
  | .namespace => .namespace
  | _ => .element

/-- Does a node test accept a node that was reached along an axis? -/
def accepted (env : Environment) (axis : Axis) (test : NodeTest) (n : Nat) : Except Fault Bool :=
  let node := env.tree.node n
  match test with
  | .node => .ok true
  | .text => .ok (node.kind == .text)
  | .comment => .ok (node.kind == .comment)
  | .instruction target =>
    .ok (node.kind == .instruction && (target.isNone || node.label == target))
  | .name name => match node.name with
    | some actual =>
      if node.kind = axis.principalKind then nameAccepted env name actual else .ok false
    | none => .ok false

/-- Does a predicate with this value accept a node at a position? A number stands for the position
    that it has without its fraction. -/
def selects (value : Value) (position : Nat) : Bool :=
  match value with
  | .number x => Number.truncate? x == some (position : Int)
  | v => v.toBool

/-- Compute with numbers. -/
def arithmetic : BinaryOp → Float → Float → Option Float
  | .plus, x, y => some (x + y)
  | .minus, x, y => some (x - y)
  | .times, x, y => some (x * y)
  | .divide, x, y => some (x / y)
  | .modulo, x, y => some (Number.remainder x y)
  | _, _, _ => none

/-- Compare numbers. -/
def comparison : BinaryOp → Float → Float → Bool
  | .less, x, y => x < y
  | .lessOrEqual, x, y => x ≤ y
  | .greater, x, y => y < x
  | .greaterOrEqual, x, y => y ≤ x
  | _, _, _ => false

/-- Apply an operator to the values of its operands. -/
def operate (t : Tree) (op : BinaryOp) (a b : Value) : Except Fault Value :=
  match op with
  | .equal => .ok (.boolean (a.equal t b))
  | .notEqual => .ok (.boolean !(a.equal t b))
  | .union => do
    let ms ← a.nodes?
    let ns ← b.nodes?
    .ok (.nodes (inOrder (ms ++ ns)))
  | .or => .ok (.boolean (a.toBool || b.toBool))
  | .and => .ok (.boolean (a.toBool && b.toBool))
  | op => match arithmetic op (a.toFloat t) (b.toFloat t) with
    | some x => .ok (.number x)
    | none => .ok (.boolean (comparison op (a.toFloat t) (b.toFloat t)))

/-- The nodes among a list, in its order, whose predicate value selects them. -/
def keep (condition : Context → Except Fault Value) (nodes : List Nat) :
    Except Fault (List Nat) := do
  let chosen ← (nodes.zipIdx 1).filterM fun (n, position) => do
    let value ← condition ⟨n, position, nodes.length⟩
    return selects value position
  return chosen.map Prod.fst

mutual
/-- The value of an expression at a place. -/
def eval (env : Environment) : Expr → Context → Except Fault Value
  | .root, _ => .ok (.nodes [0])
  | .context, at_ => .ok (.nodes [at_.node])
  | .literal s, _ => .ok (.string s)
  | .number x, _ => .ok (.number x)
  | .variable name, _ => .error (.unknownVariable name)
  | .call name arguments, at_ => do
    let values ← evalAll env arguments at_
    match name.label with
    | some _ => .error (.unknownFunction name)
    | none => callFunction env.tree at_ name.localName values
  | .binary op a b, at_ => do
    let left ← eval env a at_
    if op = .and && !left.toBool then .ok (.boolean false)
    else if op = .or && left.toBool then .ok (.boolean true)
    else
      let right ← eval env b at_
      operate env.tree op left right
  | .negate a, at_ => do
    let value ← eval env a at_
    .ok (.number (-(value.toFloat env.tree)))
  | .path start steps, at_ => do
    let value ← eval env start at_
    let nodes ← value.nodes?
    let reached ← evalSteps env steps nodes
    .ok (.nodes reached)
  | .filter a condition, at_ => do
    let value ← eval env a at_
    let nodes ← value.nodes?
    let kept ← keep (eval env condition) nodes
    .ok (.nodes kept)

/-- The values of some expressions. -/
def evalAll (env : Environment) : List Expr → Context → Except Fault (List Value)
  | [], _ => .ok []
  | e :: rest, at_ => do
    let value ← eval env e at_
    let values ← evalAll env rest at_
    .ok (value :: values)

/-- The nodes that steps reach from some nodes. -/
def evalSteps (env : Environment) : List (Axis × NodeTest × List Expr) → List Nat →
    Except Fault (List Nat)
  | [], nodes => .ok nodes
  | (axis, test, conditions) :: rest, nodes => do
    let reached ← nodes.mapM fun n => do
      let candidates ← (env.tree.along n axis).filterM (accepted env axis test)
      keepAll env conditions candidates
    evalSteps env rest (inOrder reached.flatten)

/-- The nodes that satisfy some predicates, one after the other. -/
def keepAll (env : Environment) : List Expr → List Nat → Except Fault (List Nat)
  | [], nodes => .ok nodes
  | condition :: rest, nodes => do
    let kept ← keep (eval env condition) nodes
    keepAll env rest kept
end

/-- The value of an expression at the root of a document. -/
def evaluate (env : Environment) (e : Expr) : Except Fault Value := eval env e ⟨0, 1, 1⟩

end Exchange.XPath
