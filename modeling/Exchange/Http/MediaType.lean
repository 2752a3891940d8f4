import Exchange.Data.Table
import Exchange.Text.AsciiCase
import Exchange.Text.Blank
import Exchange.Text.Split

/-! # Media types

A media type is a type, a subtype and parameters by name. Types, subtypes and parameter names are
kept in ASCII lower case. `MediaType.compatible` says whether two media types, of which either may
be a range, have a media type in common.
-/

namespace Exchange

/-- A media type or a range of media types. -/
structure MediaType where
  type : String
  subtype : String
  parameters : Table String := []
  deriving Repr, DecidableEq

namespace MediaType

/-- Why a text is no media type. -/
inductive Fault where
  | empty
  | noSlash
  | notTokens
  | wildcardType
  | parameterWithoutValue
  deriving Repr, DecidableEq

/-- The fault in words. -/
def Fault.message : Fault → String
  | empty => "media type is empty"
  | noSlash => "does not contain '/'"
  | notTokens => "type and subtype must be non-empty tokens"
  | wildcardType => "wildcard type is legal only in '*/*'"
  | parameterWithoutValue => "parameter does not contain '='"

/-- A media type without parameters. -/
def of (type subtype : String) : MediaType := ⟨Text.asciiLower type, Text.asciiLower subtype, []⟩

/-- Set a parameter. -/
def setParameter (m : MediaType) (name value : String) : MediaType :=
  { m with parameters := m.parameters.insert (Text.asciiLower name) value }

/-- The value of a parameter. -/
def parameter? (m : MediaType) (name : String) : Option String :=
  m.parameters.find? (Text.asciiLower name)

/-- The character encoding that the media type names. -/
def charset? (m : MediaType) : Option String := m.parameter? "charset"

/-- Take one pair of quotes off a value. -/
def unquote (value : List Char) : List Char :=
  match value with
  | '"' :: rest => if rest.getLast? = some '"' then rest.dropLast else value
  | _ => value

/-- Read the type and subtype. -/
def readEssence (essence : List Char) : Except Fault MediaType :=
  if essence = [] then .error .empty
  else match Text.splitOnce? '/' essence with
    | none => .error .noSlash
    | some (type, subtype) =>
      let type := Text.trimChars type
      let subtype := Text.trimChars subtype
      if type = [] ∨ subtype = [] ∨ subtype.contains '/' then .error .notTokens
      else if type = ['*'] ∧ subtype ≠ ['*'] then .error .wildcardType
      else .ok (of (String.ofList type) (String.ofList subtype))

/-- Read the parameters behind the semicolons; blank ones do not count. -/
def readParameters (m : MediaType) : List (List Char) → Except Fault MediaType
  | [] => .ok m
  | piece :: rest =>
    let parameter := Text.trimChars piece
    if parameter = [] then readParameters m rest
    else match Text.splitOnce? '=' parameter with
      | none => .error .parameterWithoutValue
      | some (name, value) =>
        let value := unquote (Text.trimChars value)
        readParameters
          (m.setParameter (String.ofList (Text.trimChars name)) (String.ofList value)) rest

/-- Read a media type. -/
def read (text : String) : Except Fault MediaType :=
  match Text.splitAll ';' text.toList with
  | [] => .error .empty
  | essence :: parameters => do
    let m ← readEssence (Text.trimChars essence)
    readParameters m parameters

/-- Do two values of a parameter agree? The case of a character encoding does not count. -/
def sameValue (name a b : String) : Bool :=
  if name = "charset" then Text.sameIgnoringCase a b else a == b

/-- Equality of media types. -/
def same (a b : MediaType) : Bool :=
  a.type == b.type && a.subtype == b.subtype && a.parameters.length == b.parameters.length &&
    a.parameters.all fun (name, value) =>
      match b.parameters.find? name with
      | some theirs => sameValue name value theirs
      | none => false

/-- Does a subtype of the form `*+suffix` cover another subtype? -/
def coversSuffix (pattern subtype : String) : Bool :=
  match pattern.toList with
  | '*' :: '+' :: suffix => Text.endsWith subtype.toList ('+' :: suffix)
  | _ => false

/-- Can something be of both types? Parameters do not count. -/
def compatible (a b : MediaType) : Bool :=
  a.type == "*" || b.type == "*" ||
    (a.type == b.type &&
      (a.subtype == b.subtype || a.subtype == "*" || b.subtype == "*" ||
        coversSuffix a.subtype b.subtype || coversSuffix b.subtype a.subtype))

/-- The text of a media type. -/
def text (m : MediaType) : String :=
  m.type ++ "/" ++ m.subtype ++
    String.join (m.parameters.map fun (name, value) => ";" ++ name ++ "=" ++ value)

end MediaType

end Exchange
