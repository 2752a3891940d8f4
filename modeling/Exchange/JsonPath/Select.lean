import Exchange.JsonPath.Path
import Exchange.Regex.Reader

/-! # What a JSON path selects

The nodes that a path selects, in the order of the data, with a node as often as it is reached. A
descendant segment selects among the children of a node, then does the same below each child in
turn.

Of the package `serde_json_path` is assumed that a query selects these nodes in this order, and that
it has an answer for every value.
-/

namespace Exchange

namespace Json

/-- The children of a value. -/
def children : Json → List Json
  | .array items => items
  | .object members => members.map Prod.snd
  | _ => []

mutual
/-- A value and all values below it, each before those below it. -/
def subtree : Json → List Json
  | .array items => .array items :: subtreeItems items
  | .object members => .object members :: subtreeMembers members
  | j => [j]

/-- The subtrees of items. -/
def subtreeItems : List Json → List Json
  | [] => []
  | item :: rest => subtree item ++ subtreeItems rest

/-- The subtrees of members. -/
def subtreeMembers : List (String × Json) → List Json
  | [] => []
  | (_, value) :: rest => subtree value ++ subtreeMembers rest
end

end Json

namespace JsonPath

/-- The place of an index in a list of a length, from the end if negative. -/
def place? (length : Nat) (index : Int) : Option Nat :=
  let i := if index < 0 then length + index else index
  if 0 ≤ i ∧ i < length then some i.toNat else none

/-- Places from `lower` up, `step` apart, below `upper`; `fuel` bounds their number. -/
def placesUp (fuel : Nat) (lower upper step : Int) : List Nat :=
  match fuel with
  | 0 => []
  | fuel + 1 => if lower < upper then lower.toNat :: placesUp fuel (lower + step) upper step else []

/-- Places from `upper` down, `step` apart, above `lower`; `fuel` bounds their number. -/
def placesDown (fuel : Nat) (upper lower step : Int) : List Nat :=
  match fuel with
  | 0 => []
  | fuel + 1 =>
    if lower < upper then upper.toNat :: placesDown fuel (upper + step) lower step else []

/-- The places that a slice of a list of a length selects, in its order. -/
def slicePlaces (length : Nat) (start stop step : Option Int) : List Nat :=
  let n : Int := length
  let normal (i : Int) := if 0 ≤ i then i else n + i
  let step := step.getD 1
  if 0 < step then
    let lower := min (max (normal (start.getD 0)) 0) n
    let upper := min (max (normal (stop.getD n)) 0) n
    placesUp length lower upper step
  else if step < 0 then
    let upper := min (max (normal (start.getD (n - 1))) (-1)) (n - 1)
    let lower := min (max (normal (stop.getD (-n - 1))) (-1)) (n - 1)
    placesDown length upper lower step
  else []

/-- The item at an index. -/
def item? (node : Json) (i : Int) : Option Json :=
  match node with
  | .array items => (place? items.length i).bind fun p => items[p]?
  | _ => none

/-- The child that a single step leads to. -/
def SingleStep.child? (node : Json) : SingleStep → Option Json
  | name n => node.member? n
  | index i => if i < 0 then none else item? node i

/-- The node at the end of single steps. -/
def walk? (node : Json) (steps : List SingleStep) : Option Json :=
  steps.foldlM SingleStep.child? node

/-- The items of a slice. -/
def sliceOf (node : Json) (start stop step : Option Int) : List Json :=
  match node with
  | .array items => (slicePlaces items.length start stop step).filterMap fun p => items[p]?
  | _ => []

/-- Equality in a comparison: numbers are equal if the doubles nearest to them are. -/
def equalValues : Json → Json → Bool
  | .number a, .number b => a.toFloat == b.toFloat
  | a, b => a == b

/-- Order in a comparison: only numbers and texts are ordered. -/
def lessThan : Json → Json → Bool
  | .number a, .number b => a.toFloat < b.toFloat
  | .string a, .string b => a < b
  | _, _ => false

/-- Are two values of one kind? -/
def sameKind : Json → Json → Bool
  | .null, .null | .bool _, .bool _ | .number _, .number _ | .string _, .string _
  | .array _, .array _ | .object _, .object _ => true
  | _, _ => false

/-- A comparison of two values. Greater is what is of the same kind, not less and not equal: of the
    kinds without an order, values are greater than each other where they differ. -/
def Comparison.compares (op : Comparison) (a b : Json) : Bool :=
  let less := lessThan a b
  let equal := equalValues a b
  match op with
  | .equal => equal
  | .notEqual => !equal
  | .less => sameKind a b && less
  | .lessOrEqual => sameKind a b && (less || equal)
  | .greater => sameKind a b && !less && !equal
  | .greaterOrEqual => sameKind a b && !less

/-- A comparison of values that may be missing: two missing values are equal, and nothing is less
    or greater than a missing value. -/
def Comparison.holds (op : Comparison) (a b : Option Json) : Bool :=
  match a, b with
  | some a, some b => op.compares a b
  | none, none => op == .equal
  | _, _ => op == .notEqual

/-- The pattern of a test: at the ends of lines a carriage return counts as a line feed does. -/
def patternText (whole : Bool) (pattern : String) : String :=
  if whole then "(?R)^(" ++ pattern ++ ")$" else "(?R)(" ++ pattern ++ ")"

/-- Does a text match a pattern? What is no text or no pattern does not. -/
def textMatches (whole : Bool) (text pattern : Option Json) : Bool :=
  match text, pattern with
  | some (.string text), some (.string pattern) =>
    match Regex.read? (patternText whole pattern) with
    | some p => p.foundIn text
    | none => false
  | _, _ => false

/-- The length of a value that has one. -/
def lengthOf : Json → Option Json
  | .string s => some (.number (.int s.length))
  | .array items => some (.number (.int items.length))
  | .object members => some (.number (.int members.length))
  | _ => none

/-- The node where a path within a filter starts. -/
def Origin.node (root current : Json) : Origin → Json
  | .root => root
  | .current => current

mutual
/-- What a selector selects among the children of a node. -/
def Selector.select (root node : Json) : Selector → List Json
  | .name n => (node.member? n).toList
  | .wildcard => node.children
  | .index i => (item? node i).toList
  | .slice start stop step => sliceOf node start stop step
  | .filter condition => node.children.filter fun child => condition.holds root child

/-- What some selectors select, one after the other. -/
def selectEach (root node : Json) : List Selector → List Json
  | [] => []
  | selector :: rest => selector.select root node ++ selectEach root node rest

/-- What a segment selects from a node. -/
def Segment.select (root node : Json) : Segment → List Json
  | .child selectors => selectEach root node selectors
  | .descendant selectors => node.subtree.flatMap fun n => selectEach root n selectors

/-- What the segments of a path select from some nodes. -/
def follow (root : Json) (nodes : List Json) : List Segment → List Json
  | [] => nodes
  | segment :: rest => follow root (nodes.flatMap fun n => segment.select root n) rest

/-- Does a condition hold of a node? -/
def Condition.holds (root current : Json) : Condition → Bool
  | .or a b => a.holds root current || b.holds root current
  | .and a b => a.holds root current && b.holds root current
  | .not a => !a.holds root current
  | .selects origin segments => !(follow root [origin.node root current] segments).isEmpty
  | .matchesPattern whole text pattern =>
    textMatches whole (text.value? root current) (pattern.value? root current)
  | .compare op left right => op.holds (left.value? root current) (right.value? root current)

/-- The value of a side of a comparison. -/
def Operand.value? (root current : Json) : Operand → Option Json
  | .literal j => some j
  | .single origin steps => walk? (origin.node root current) steps
  | .length a => (a.value? root current).bind lengthOf
  | .count origin segments =>
    let start := origin.node root current
    some (.number (.int (match Path.steps? segments with
      | some steps => (walk? start steps).toList
      | none => follow root [start] segments).length))
  | .value origin segments =>
    let start := origin.node root current
    match Path.steps? segments with
    | some steps => walk? start steps
    | none =>
      match follow root [start] segments with
      | [j] => some j
      | _ => none
end

/-- What a path selects from a document. -/
def select (path : Path) (document : Json) : List Json := follow document [document] path

end JsonPath

end Exchange
