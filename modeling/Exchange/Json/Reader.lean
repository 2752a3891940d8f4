import Exchange.Data.Datum
import Exchange.Number.Numeral
import Exchange.Json.Printer

/-! # Reading JSON

A reader for the whole grammar of JSON. It refuses lone surrogate escapes, numbers beyond the range
of doubles, text after the value, and values nested more than 127 deep.

The reader stands for that of the package `serde_json`. Of it is assumed that it takes just these
texts, that a whole number is kept as it is where it fits 64 bits, and that any other is the double
that the arithmetic of `JsonNumber.scale?` gives, which need not be the nearest.
-/

namespace Exchange

namespace JsonNumber

/-- Digits of a number that are kept exactly, and how many were not. -/
structure Digits where
  value : Nat
  dropped : Nat
  deriving Repr, DecidableEq

/-- Does the value fit an integer of 64 bits without a sign? -/
def fits (n : Nat) : Bool := n < Nat.pow 2 64

/-- Append digits while the value fits 64 bits; from the first that does not, none is kept. -/
def keepDigits (start : Nat) : List Char → Digits
  | [] => ⟨start, 0⟩
  | c :: rest =>
    let next := start * 10 + (c.toNat - '0'.toNat)
    if fits next then keepDigits next rest else ⟨start, rest.length + 1⟩

/-- Multiply by a power of ten in double arithmetic, by at most 308 powers at a time. A number out
    of range has no value. -/
def scale? (x : Float) (exponent : Int) : Option Float :=
  let power (n : Nat) := Float.ofScientific 1 false n
  if 308 < exponent then if x == 0.0 then some x else none
  else if 0 ≤ exponent then
    let product := x * power exponent.toNat
    if product.isInf then none else some product
  else
    let steps := exponent.natAbs / 308
    -- Three divisions reach zero from any double.
    let shrunk := (List.range (min steps 3)).foldl (fun y _ => y / power 308) x
    if steps ≤ 3 then some (shrunk / power (exponent.natAbs % 308)) else some shrunk

/-- The number written with these integer digits, fraction digits and exponent, if any. Digits of
    the integer part that are not kept are places before the point, and the fraction digits are
    appended to those that are kept all the same. -/
def ofNumeral? (negative : Bool) (whole : List Char) (fraction : Option (List Char))
    (exponent : Option Int) : Option JsonNumber :=
  let kept := keepDigits 0 whole
  let exact := kept.dropped = 0
  match fraction, exponent with
  | none, none =>
    if exact ∧ !negative then some (.int kept.value)
    else if exact ∧ 0 < kept.value ∧ kept.value ≤ Nat.pow 2 63 then some (.int (-kept.value))
    else float? kept.value kept.dropped
  | _, _ =>
    let places := fraction.getD []
    let all := keepDigits kept.value places
    let appended : Int := places.length - all.dropped
    float? all.value (kept.dropped - appended + exponent.getD 0)
where
  /-- A significand and a power of ten as a double. -/
  float? (significand : Nat) (exponent : Int) : Option JsonNumber :=
    (scale? (Float.ofNat significand) exponent).map fun x => .float (if negative then -x else x)

/-- Split an exponent off the front: no exponent, or its value; an exponent without digits is a
    fault. -/
def takeExponent? : List Char → Option (Option Int × List Char)
  | [] => some (none, [])
  | c :: rest =>
    if c = 'e' ∨ c = 'E' then
      let (negative, rest) := Number.takeSign rest
      let digits := rest.takeWhile Number.isDigit
      if digits = [] then none
      else
        let n : Int := Number.digitsValue digits
        some (some (if negative then -n else n), rest.dropWhile Number.isDigit)
    else some (none, c :: rest)

/-- Split fraction digits off the front; a point without digits is a fault. -/
def takeFraction? : List Char → Option (Option (List Char) × List Char)
  | '.' :: rest =>
    let digits := rest.takeWhile Number.isDigit
    if digits = [] then none else some (some digits, rest.dropWhile Number.isDigit)
  | cs => some (none, cs)

/-- Read a number off the front. -/
def read? (cs : List Char) : Option (JsonNumber × List Char) := do
  let (negative, cs) := match cs with
    | '-' :: rest => (true, rest)
    | _ => (false, cs)
  let whole := cs.takeWhile Number.isDigit
  if whole = [] ∨ (whole.head? = some '0' ∧ 1 < whole.length) then none
  else
    let (fraction, cs) ← takeFraction? (cs.dropWhile Number.isDigit)
    let (exponent, cs) ← takeExponent? cs
    let n ← ofNumeral? negative whole fraction exponent
    some (n, cs)

end JsonNumber

namespace Json

/-- Blanks between the tokens of JSON. -/
def isBlank (c : Char) : Bool := c = ' ' || c = '\t' || c = '\n' || c = '\r'

/-- Drop blanks in front. -/
def skipBlanks (cs : List Char) : List Char := cs.dropWhile isBlank

/-- The value of a hexadecimal digit. -/
def hexValue? (c : Char) : Option Nat :=
  if '0' ≤ c ∧ c ≤ '9' then some (c.toNat - 48)
  else if 'a' ≤ c ∧ c ≤ 'f' then some (c.toNat - 87)
  else if 'A' ≤ c ∧ c ≤ 'F' then some (c.toNat - 55)
  else none

/-- Read four hexadecimal digits. -/
def takeHex4? : List Char → Option (Nat × List Char)
  | a :: b :: c :: d :: rest => do
    let w ← hexValue? a
    let x ← hexValue? b
    let y ← hexValue? c
    let z ← hexValue? d
    some (((w * 16 + x) * 16 + y) * 16 + z, rest)
  | _ => none

/-- Read the code that follows `\u`; a high surrogate takes the low one behind it along. -/
def takeUnicode? (cs : List Char) : Option (Char × List Char) := do
  let (n, rest) ← takeHex4? cs
  if 0xD800 ≤ n ∧ n < 0xDC00 then
    match rest with
    | '\\' :: 'u' :: rest => do
      let (m, rest) ← takeHex4? rest
      if 0xDC00 ≤ m ∧ m < 0xE000 then
        some (Char.ofNat ((n - 0xD800) * 0x400 + (m - 0xDC00) + 0x10000), rest)
      else none
    | _ => none
  else if 0xDC00 ≤ n ∧ n < 0xE000 then none
  else some (Char.ofNat n, rest)

/-- Read what follows a backslash. -/
def takeEscape? : List Char → Option (Char × List Char)
  | '"' :: rest => some ('"', rest)
  | '\\' :: rest => some ('\\', rest)
  | '/' :: rest => some ('/', rest)
  | 'b' :: rest => some ('\x08', rest)
  | 'f' :: rest => some ('\x0c', rest)
  | 'n' :: rest => some ('\n', rest)
  | 'r' :: rest => some ('\r', rest)
  | 't' :: rest => some ('\t', rest)
  | 'u' :: rest => takeUnicode? rest
  | _ => none

/-- Read the rest of a string up to its closing quote. -/
def takeString? : Nat → List Char → Option (List Char × List Char)
  | 0, _ => none
  | _ + 1, [] => none
  | fuel + 1, c :: rest =>
    if c = '"' then some ([], rest)
    else if c = '\\' then do
      let (d, rest) ← takeEscape? rest
      let (ds, rest) ← takeString? fuel rest
      some (d :: ds, rest)
    else if c.toNat < 0x20 then none
    else do
      let (ds, rest) ← takeString? fuel rest
      some (c :: ds, rest)

/-- Read a string whose opening quote is gone. -/
def readString? (cs : List Char) : Option (String × List Char) := do
  let (s, rest) ← takeString? (cs.length + 1) cs
  some (String.ofList s, rest)

/-- Read a word off the front. -/
def takeWord? (word : List Char) (cs : List Char) : Option (List Char) :=
  if word.isPrefixOf cs then some (cs.drop word.length) else none

mutual
/-- Read a value off the front; `depth` is how deep it may be nested. -/
def readValue? : (fuel depth : Nat) → List Char → Option (Datum × List Char)
  | 0, _, _ => none
  | fuel + 1, depth, cs =>
    match skipBlanks cs with
    | '"' :: rest => do
      let (s, rest) ← readString? rest
      some (.string s, rest)
    | '[' :: rest =>
      match depth, skipBlanks rest with
      | 0, _ => none
      | _ + 1, ']' :: rest => some (.list [], rest)
      | depth + 1, rest => do
        let (items, rest) ← readItems? fuel depth rest
        some (.list items, rest)
    | '\x7b' :: rest =>
      match depth, skipBlanks rest with
      | 0, _ => none
      | _ + 1, '\x7d' :: rest => some (.record [], rest)
      | depth + 1, rest => do
        let (entries, rest) ← readEntries? fuel depth rest
        some (.record entries, rest)
    | 'n' :: rest => (takeWord? ['u', 'l', 'l'] rest).map (Datum.null, ·)
    | 't' :: rest => (takeWord? ['r', 'u', 'e'] rest).map (Datum.bool true, ·)
    | 'f' :: rest => (takeWord? ['a', 'l', 's', 'e'] rest).map (Datum.bool false, ·)
    | cs => do
      let (n, rest) ← JsonNumber.read? cs
      some (match n with
        | .int n => .int n
        | .float x => .float x, rest)

/-- Read the items of an array up to the closing bracket. -/
def readItems? : (fuel depth : Nat) → List Char → Option (List Datum × List Char)
  | 0, _, _ => none
  | fuel + 1, depth, cs => do
    let (item, rest) ← readValue? fuel depth cs
    match skipBlanks rest with
    | ']' :: rest => some ([item], rest)
    | ',' :: rest => do
      let (items, rest) ← readItems? fuel depth rest
      some (item :: items, rest)
    | _ => none

/-- Read the members of an object up to the closing brace. -/
def readEntries? : (fuel depth : Nat) → List Char → Option (List (Datum × Datum) × List Char)
  | 0, _, _ => none
  | fuel + 1, depth, cs =>
    match skipBlanks cs with
    | '"' :: rest => do
      let (name, rest) ← readString? rest
      match skipBlanks rest with
      | ':' :: rest => do
        let (value, rest) ← readValue? fuel depth rest
        match skipBlanks rest with
        | '\x7d' :: rest => some ([(.string name, value)], rest)
        | ',' :: rest => do
          let (entries, rest) ← readEntries? fuel depth rest
          some ((.string name, value) :: entries, rest)
        | _ => none
      | _ => none
    | _ => none
end

/-- How deep values may be nested. -/
def maxDepth : Nat := 127

/-- Read a text that holds one value and nothing else. -/
def readDatum? (text : String) : Option Datum := do
  let cs := text.toList
  let (datum, rest) ← readValue? (2 * cs.length + 2) maxDepth cs
  if skipBlanks rest = [] then some datum else none

/-- Read a text as a JSON value. -/
def read? (text : String) : Option Json := (readDatum? text).bind Datum.toJson?

end Json

end Exchange
