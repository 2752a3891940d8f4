import Exchange.Text.Shown

/-! # Handlers and exceptions

What handled a request: a method of a type, or something known by its type only; and the exception
that was resolved on the way, if any.
-/

namespace Exchange

/-- A method that handles requests. -/
structure HandlerMethod where
  declaringType : String
  name : String
  parameterTypes : List String := []
  deriving Repr, DecidableEq

/-- The text of a handler method. -/
def HandlerMethod.text (m : HandlerMethod) : String :=
  m.declaringType ++ "::" ++ m.name ++ "(" ++ Text.commaSeparated m.parameterTypes ++ ")"

/-- What handled a request. -/
inductive Handler where
  | method (m : HandlerMethod)
  /-- A handler that is no method. -/
  | other (type : String)
  deriving Repr, DecidableEq

namespace Handler

/-- The type of the handler. -/
def type : Handler → String
  | method m => m.declaringType
  | other t => t

/-- The method, where the handler is one. -/
def method? : Handler → Option HandlerMethod
  | method m => some m
  | other _ => none

end Handler

/-- An exception that was turned into a response. -/
structure ResolvedException where
  type : String
  message : String
  deriving Repr, DecidableEq

/-- The text of an exception. -/
def ResolvedException.text (e : ResolvedException) : String := e.type ++ ": " ++ e.message

end Exchange
