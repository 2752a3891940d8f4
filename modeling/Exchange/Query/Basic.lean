import Exchange.Data.Table
import Exchange.Query.Template

/-! # Query expressions

An expression in one of the query languages, with the namespaces that its prefixes stand for, and
the ways of evaluating it.
-/

namespace Exchange

/-- The languages of expressions. -/
inductive Language where
  | xpath
  | jsonPath
  | regex
  deriving Repr, DecidableEq

/-- The name of a language. -/
def Language.name : Language → String
  | xpath => "XPath"
  | jsonPath => "JSON path"
  | regex => "regex"

namespace Query

/-- What an evaluation is asked for. -/
inductive Mode where
  | singleNode
  | nodeSet
  | string
  | number
  | boolean
  deriving Repr, DecidableEq

/-- The mode in words. -/
def Mode.words : Mode → String
  | singleNode => "a single node"
  | nodeSet => "a node set"
  | string => "a string"
  | number => "a number"
  | boolean => "a boolean"

/-- An expression and the namespaces of its prefixes. -/
structure Expression where
  text : String
  namespaces : Table String := []
  deriving Repr, DecidableEq

/-- Why an expression cannot be compiled. -/
inductive CompileFault where
  /-- A prefix has no namespace. -/
  | unboundPrefix (name : String)
  /-- There is nothing to evaluate. -/
  | empty
  /-- The template cannot be filled in. -/
  | template (fault : TemplateFault)
  /-- Values are only compared in JSON. -/
  | valueCheck
  /-- The text does not follow the grammar, it is not said where. -/
  | malformed
  deriving Repr, DecidableEq

/-- The fault in words. -/
def CompileFault.message : CompileFault → String
  | unboundPrefix name => "namespace prefix '" ++ name ++ "' is not bound"
  | empty => "expression is empty"
  | template fault => fault.message
  | valueCheck => "value checks are only supported for JSON path"
  | malformed => "malformed expression"

end Query

end Exchange
