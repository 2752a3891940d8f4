import Exchange.Text.Shown

/-! # Expression templates

A template holds places for arguments, written `%s` or `%d`; `%%` stands for a per cent sign.
Arguments are put in as they are, in order, and there must be one for every place.
-/

namespace Exchange.Query

/-- Why a template cannot be filled in. -/
inductive TemplateFault where
  /-- A per cent sign before a character that it cannot stand before. -/
  | unknownDirective (c : Char)
  /-- A per cent sign at the end. -/
  | dangling
  | argumentCount (places arguments : Nat)
  deriving Repr, DecidableEq

/-- The fault in words. -/
def TemplateFault.message : TemplateFault → String
  | unknownDirective c => "unsupported format directive '%" ++ String.ofList [c] ++ "'"
  | dangling => "dangling '%' at end of expression"
  | argumentCount places arguments =>
    "expression has " ++ shown places ++ " placeholder(s) but " ++ shown arguments ++
      " argument(s) were given"

/-- A part of a template. -/
inductive TemplatePart where
  | char (c : Char)
  /-- A place for an argument. -/
  | place
  deriving Repr, DecidableEq

/-- Read a template. -/
def readTemplate : List Char → Except TemplateFault (List TemplatePart)
  | [] => .ok []
  | '%' :: '%' :: rest => (readTemplate rest).map (.char '%' :: ·)
  | '%' :: 's' :: rest => (readTemplate rest).map (.place :: ·)
  | '%' :: 'd' :: rest => (readTemplate rest).map (.place :: ·)
  | '%' :: c :: _ => .error (.unknownDirective c)
  | ['%'] => .error .dangling
  | c :: rest => (readTemplate rest).map (.char c :: ·)

/-- The number of places. -/
def places (parts : List TemplatePart) : Nat := parts.countP (· = .place)

/-- Put arguments in their places; a place without an argument stays empty. -/
def fill : List TemplatePart → List String → List Char
  | [], _ => []
  | .char c :: parts, arguments => c :: fill parts arguments
  | .place :: parts, [] => fill parts []
  | .place :: parts, argument :: arguments => argument.toList ++ fill parts arguments

/-- Fill in a template. -/
def format (template : String) (arguments : List String) : Except TemplateFault String := do
  let parts ← readTemplate template.toList
  if places parts = arguments.length then .ok (String.ofList (fill parts arguments))
  else .error (.argumentCount (places parts) arguments.length)

end Exchange.Query
