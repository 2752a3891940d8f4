import Exchange.Query.Value

/-! # Query engines

What the query languages have in common: an expression is compiled once, a content is read as a
document, and the query is evaluated on the document in a mode.
-/

namespace Exchange.Query

/-- Compiled queries `Q` on documents `D`, which find nodes `N`. -/
class Engine (Q : Type) (D N : outParam Type) extends IsNode N where
  language : Language
  compile : Expression → Except Failure Q
  /-- The expression that a query was compiled from. -/
  expression : Q → Expression
  /-- Read a content as a document. -/
  read : String → Except Failure D
  evaluate : Q → D → Mode → Except Failure (Found N)
  /-- The mode for questions that name none. -/
  naturalMode : Q → Mode

/-- Compile a template with its arguments, where prefixes stand for namespaces. -/
def compileTemplate {Q D N : Type} [Engine Q D N] (template : String) (arguments : List String)
    (namespaces : Table String) : Except Failure Q :=
  match format template arguments with
  | .ok text => Engine.compile ⟨text, namespaces⟩
  | .error fault => .error (.compile (Engine.language (Q := Q)) template (.template fault))

end Exchange.Query
