import Exchange.Json.Value

/-! # JSON paths

A path is a list of segments, each of which selects among the children of the nodes reached so far
or among everything below them. Filters are conditions on a node, built from tests and comparisons;
their kinds are kept apart by the types, so that every path is well typed.
-/

namespace Exchange.JsonPath

/-- Where a path within a filter starts. -/
inductive Origin where
  /-- At the whole document. -/
  | root
  /-- At the node that the filter is about. -/
  | current
  deriving Repr, DecidableEq

/-- The comparisons. -/
inductive Comparison where
  | equal
  | notEqual
  | less
  | lessOrEqual
  | greater
  | greaterOrEqual
  deriving Repr, DecidableEq

/-- A step to at most one child. -/
inductive SingleStep where
  | name (name : String)
  /-- An item, counted from the front only: a negative index leads nowhere. -/
  | index (index : Int)
  deriving Repr, DecidableEq

mutual
/-- A selector of children. -/
inductive Selector where
  | name (name : String)
  | wildcard
  /-- An item, from the end if negative. -/
  | index (index : Int)
  | slice (start stop step : Option Int)
  | filter (condition : Condition)

/-- A segment of a path. -/
inductive Segment where
  | child (selectors : List Selector)
  /-- Selects among the children of a node and of every node below it. -/
  | descendant (selectors : List Selector)

/-- A condition on a node. -/
inductive Condition where
  | or (a b : Condition)
  | and (a b : Condition)
  | not (a : Condition)
  /-- A path selects something. -/
  | selects (origin : Origin) (segments : List Segment)
  /-- A text matches a pattern, as a whole or somewhere. -/
  | matchesPattern (whole : Bool) (text pattern : Operand)
  | compare (op : Comparison) (left right : Operand)

/-- A side of a comparison. -/
inductive Operand where
  | literal (value : Json)
  /-- The node at the end of single steps. -/
  | single (origin : Origin) (steps : List SingleStep)
  /-- The length of a text, an array or an object. -/
  | length (a : Operand)
  /-- The number of nodes that a path selects; a path of single steps is taken as one. -/
  | count (origin : Origin) (segments : List Segment)
  /-- The node that a path selects, if it is one. -/
  | value (origin : Origin) (segments : List Segment)
end

/-- A path. -/
abbrev Path := List Segment

/-- The single step that a segment takes, if it is one. -/
def Segment.single? : Segment → Option SingleStep
  | child [.name n] => some (.name n)
  | child [.index i] => some (.index i)
  | _ => none

/-- The single steps that a path takes, if it takes no others. -/
def Path.steps? (path : Path) : Option (List SingleStep) := path.mapM Segment.single?

/-- Every segment takes a single step. -/
def Path.single (path : Path) : Bool := path.all fun s => s.single?.isSome

end Exchange.JsonPath
