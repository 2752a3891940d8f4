import Exchange.Data.Datum
import Exchange.Yaml.Node

/-! # What YAML nodes stand for

Plain scalars without a tag are null, truth values, integers, floating-point numbers or texts by
their spelling; all other scalars are texts unless a tag of the standard says otherwise. Tags of
one's own have no meaning here and make a node unreadable.
-/

namespace Exchange.Yaml

open Number (isDigit digitsValue readNumeral?)

/-- The spellings of null. -/
def isNullWord (s : String) : Bool := ["null", "Null", "NULL", "~"].contains s

/-- The spellings of truth values. -/
def readBool? (s : String) : Option Bool :=
  if ["true", "True", "TRUE"].contains s then some true
  else if ["false", "False", "FALSE"].contains s then some false
  else none

/-- A text without a plus sign in front; behind that there is no second sign. -/
def withoutPlus? : List Char → Option (List Char)
  | '+' :: '+' :: _ => none
  | '+' :: '-' :: _ => none
  | '+' :: rest => some rest
  | cs => some cs

/-- Digits with a zero in front of them are a text. -/
def isPadded (cs : List Char) : Bool :=
  match (Number.takeSign cs).2 with
  | '0' :: d :: rest => (d :: rest).all isDigit
  | _ => false

/-- The value of digits to a base. -/
def readDigits? (base : Nat) (cs : List Char) : Option Nat :=
  if cs = [] then none
  else cs.foldlM (fun n c => do
    let d ← Json.hexValue? c
    if d < base then some (n * base + d) else none) 0

/-- The integer that digits without a sign stand for; a mark in front tells the base. -/
def readMagnitude? (padded : Bool) : List Char → Option Nat
  | '0' :: 'x' :: rest => readDigits? 16 rest
  | '0' :: 'o' :: rest => readDigits? 8 rest
  | '0' :: 'b' :: rest => readDigits? 2 rest
  | cs => if padded then none else readDigits? 10 cs

/-- An integer of any size. -/
def readInt? (cs : List Char) : Option Int :=
  match cs with
  | '-' :: rest => (readMagnitude? (isPadded cs) rest).map fun n => -(n : Int)
  | _ => do
    let n ← readMagnitude? (isPadded cs) (← withoutPlus? cs)
    some n

/-- A floating-point number, which is finite unless it is spelt as one of the special ones. -/
def readFloat? (cs : List Char) : Option Float := do
  let unsigned ← withoutPlus? cs
  let word := String.ofList unsigned
  if [".inf", ".Inf", ".INF"].contains word then some (1.0 / 0.0)
  else if ["-.inf", "-.Inf", "-.INF"].contains (String.ofList cs) then some (-1.0 / 0.0)
  else if [".nan", ".NaN", ".NAN"].contains (String.ofList cs) then some (0.0 / 0.0)
  else
    let x := (← readNumeral? unsigned).value
    if x.isFinite then some x else none

/-- Integers that a datum can hold are those of 64 bits; larger ones of up to 128 bits are
    refused, and those beyond are no integers. -/
inductive IntSize where
  | held
  | refused
  | beyond
  deriving Repr, DecidableEq

/-- The size of an integer. -/
def IntSize.of (n : Int) : IntSize :=
  if -(Nat.pow 2 63 : Int) ≤ n ∧ n < Nat.pow 2 64 then held
  else if -(Nat.pow 2 127 : Int) ≤ n ∧ n < Nat.pow 2 128 then refused
  else beyond

/-- What a plain scalar without a tag stands for. -/
def plainDatum? (s : String) : Option Datum :=
  let cs := s.toList
  let notInt : Option Datum :=
    match if isPadded cs then none else readFloat? cs with
    | some x => some (.float x)
    | none => some (.string s)
  if s = "" ∨ isNullWord s then some .null
  else match readBool? s with
    | some b => some (.bool b)
    | none => match readInt? cs with
      | some n => match IntSize.of n with
        | .held => some (.int n)
        | .refused => none
        | .beyond => notInt
      | none => notInt

/-- The tags of the standard begin like this. -/
def standardTag (name : String) : String := "tag:yaml.org,2002:" ++ name

/-- A tag of one's own. -/
def isOwnTag (tag : Option String) : Bool := tag.any fun t => t.toList.head? = some '!'

/-- What a scalar stands for. -/
def scalarDatum? (tag : Option String) (s : String) (plain : Bool) : Option Datum :=
  match tag with
  | none => if plain then plainDatum? s else some (.string s)
  | some tag =>
    if tag = standardTag "bool" then (readBool? s).map .bool
    else if tag = standardTag "int" then do
      let n ← readInt? s.toList
      if IntSize.of n = .held then some (.int n) else none
    else if tag = standardTag "float" then (readFloat? s.toList).map .float
    else if tag = standardTag "null" then if isNullWord s then some .null else none
    else if isOwnTag (some tag) then none
    else some (.string s)

namespace Node

/-- What a node stands for; `depth` is how deep it may be nested, and without an end it is too
    deep. -/
def toDatum? (depth : Nat) (node : Node) : Option Datum :=
  match depth, node.target with
  | _, .scalar tag s plain => scalarDatum? tag s plain
  | _, .alias .. | _, .endless | 0, _ => none
  | depth + 1, .sequence tag items =>
    if isOwnTag tag then none else (items.mapM (toDatum? depth)).map .list
  | depth + 1, .mapping tag entries =>
    if isOwnTag tag then none
    else do
      let entries ← entries.mapM fun (key, value) => do
        let key ← key.toDatum? depth
        let value ← value.toDatum? depth
        some (key, value)
      some (.record entries)

/-- The text of a scalar, whatever it stands for. -/
def text? (node : Node) : Option String :=
  match node.target with
  | .scalar _ s _ => some s
  | _ => none

/-- Is the node a plain scalar of nothing? -/
def isEmpty (node : Node) : Bool :=
  match node.target with
  | .scalar _ s plain => plain && s == ""
  | _ => false

/-- A text that may be null; only a plain scalar can be null. -/
def optionalText? (node : Node) : Option (Option String) :=
  match node.target with
  | .scalar none s true => some (if s = "" ∨ isNullWord s then none else some s)
  | .scalar (some tag) s true =>
    if tag = standardTag "null" then if isNullWord s then some none else none
    else some (some s)
  | .scalar _ s false => some (some s)
  | _ => none

end Node

/-- How deep collections may be nested. -/
def maxDepth : Nat := 128

/-- How many aliases may be followed for each event of a document. -/
def maxFollowed : Nat := 100

end Exchange.Yaml
