import Exchange.Number.Binary64
import Exchange.Text.AsciiCase

/-! # Reading numbers

Integers and decimal numerals as texts give them, without blanks around them. A decimal numeral
denotes the double nearest to it, infinity where it is too large.
-/

namespace Exchange.Number

/-- A decimal digit. -/
def isDigit (c : Char) : Bool := '0' ≤ c && c ≤ '9'

/-- The value of decimal digits. -/
def digitsValue (cs : List Char) : Nat :=
  cs.foldl (fun n c => 10 * n + (c.toNat - '0'.toNat)) 0

/-- Take a sign off the front: is the number negative, and what follows. -/
def takeSign : List Char → Bool × List Char
  | '-' :: rest => (true, rest)
  | '+' :: rest => (false, rest)
  | cs => (false, cs)

/-- An integer with an optional sign, made of digits alone. -/
def readInt? (cs : List Char) : Option Int :=
  let (negative, digits) := takeSign cs
  if digits ≠ [] ∧ digits.all isDigit then
    some (if negative then -(digitsValue digits : Int) else digitsValue digits)
  else none

/-- An integer of 64 bits with a sign. -/
def readInt64? (s : String) : Option Int :=
  (readInt? s.toList).filter fun n => -(Nat.pow 2 63 : Int) ≤ n ∧ n < Nat.pow 2 63

/-- A numeral in its parts: the digits before and after the point, and the power of ten. -/
structure Numeral where
  negative : Bool
  whole : List Char
  fraction : List Char
  exponent : Int
  deriving Repr, DecidableEq

/-- The exponent part of a numeral, which ends the text. -/
def readExponent? : List Char → Option Int
  | [] => some 0
  | c :: rest => if c = 'e' ∨ c = 'E' then readInt? rest else none

/-- A decimal numeral: digits with at most one point among them, then an optional exponent. -/
def readNumeral? (cs : List Char) : Option Numeral :=
  let (negative, cs) := takeSign cs
  let whole := cs.takeWhile isDigit
  let afterWhole := cs.dropWhile isDigit
  let (fraction, rest) := match afterWhole with
    | '.' :: more => (more.takeWhile isDigit, more.dropWhile isDigit)
    | more => ([], more)
  if whole = [] ∧ fraction = [] then none
  else (readExponent? rest).map fun exponent => ⟨negative, whole, fraction, exponent⟩

/-- The double nearest to a numeral. A number of more than 400 digits before the point is infinite
    and one with more than 400 zeros after the point is zero, whatever its digits. -/
def Numeral.value (n : Numeral) : Float :=
  let digits := (n.whole ++ n.fraction).dropWhile (· = '0')
  let exponent := n.exponent - n.fraction.length
  let magnitude :=
    if digits = [] ∨ digits.length + exponent < -400 then 0.0
    else if digits.length + exponent > 400 then 1.0 / 0.0
    else Float.ofScientific (digitsValue digits) (exponent < 0) exponent.natAbs
  if n.negative then -magnitude else magnitude

/-- The words for infinity and for what is no number, in any letter case. -/
def readNumberWord? (cs : List Char) : Option Float :=
  let (negative, word) := takeSign cs
  let value? := match String.ofList (word.map Text.asciiLowerChar) with
    | "inf" | "infinity" => some (1.0 / 0.0)
    | "nan" => some (0.0 / 0.0)
    | _ => none
  value?.map fun x => if negative then -x else x

/-- A number: a decimal numeral or a word. -/
def readFloat? (s : String) : Option Float :=
  match readNumeral? s.toList with
  | some n => some n.value
  | none => readNumberWord? s.toList

end Exchange.Number
