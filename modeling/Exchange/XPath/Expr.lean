/-! # XPath expressions

The expressions of XPath 1.0 in their unabbreviated form: paths are steps along axes from a starting
point, and predicates narrow what a step or another expression selects.
-/

namespace Exchange.XPath

/-- A name with a prefix or without. -/
structure QName where
  label : Option String
  localName : String
  deriving Repr, DecidableEq

/-- The directions in which a step goes. -/
inductive Axis where
  | ancestor
  | ancestorOrSelf
  | attribute
  | child
  | descendant
  | descendantOrSelf
  | following
  | followingSibling
  | namespace
  | parent
  | preceding
  | precedingSibling
  | self
  deriving Repr, DecidableEq

/-- The conditions on a node that a step reaches. -/
inductive NodeTest where
  /-- Any node. -/
  | node
  | text
  | comment
  /-- A processing instruction, where a target is given with that target. -/
  | instruction (target : Option String)
  /-- A node of the axis's own kind; the local name `*` stands for any. -/
  | name (name : QName)
  deriving Repr, DecidableEq

/-- The operators between two operands. -/
inductive BinaryOp where
  | or
  | and
  | equal
  | notEqual
  | less
  | lessOrEqual
  | greater
  | greaterOrEqual
  | plus
  | minus
  | times
  | divide
  | modulo
  | union
  deriving Repr, DecidableEq

/-- An expression. A step is an axis, a node test and predicates. -/
inductive Expr where
  /-- The root of the document. -/
  | root
  /-- The node from which the evaluation starts. -/
  | context
  | literal (s : String)
  | number (x : Float)
  | variable (name : QName)
  | call (name : QName) (arguments : List Expr)
  | binary (op : BinaryOp) (a b : Expr)
  | negate (a : Expr)
  | path (start : Expr) (steps : List (Axis × NodeTest × List Expr))
  /-- The nodes of an expression that satisfy a predicate. -/
  | filter (a condition : Expr)

/-- A step of a path. -/
abbrev Step := Axis × NodeTest × List Expr

end Exchange.XPath
