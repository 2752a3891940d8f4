import Exchange.Text.CodeRanges

/-! # Named sets of characters

A property of Unicode under the names that patterns use for it. The names are in the loose form, in
lower case and without blanks, hyphens and underscores.
-/

namespace Exchange.Regex

open Exchange.Text (CodeRanges)

/-- A set of characters and its names; the code points are written in hexadecimal over a few lines,
    a range with a hyphen between its ends. -/
structure Property where
  names : List String
  written : List String

/-- The value of hexadecimal digits in capitals. -/
def hexNumber (cs : List Char) : Nat :=
  cs.foldl (fun n c => 16 * n + (if c ≤ '9' then c.toNat - 48 else c.toNat - 55)) 0

/-- Cut a list at the blanks in it. -/
def splitAtBlanks (cs : List Char) : List (List Char) :=
  cs.foldr (fun c words => match words with
    | word :: rest => if c = ' ' then [] :: word :: rest else (c :: word) :: rest
    | [] => [[c]]) [[]]

/-- Read a range, which may be a single code point. -/
def readRange (cs : List Char) : Nat × Nat :=
  let low := cs.takeWhile (· ≠ '-')
  match cs.drop low.length with
  | _ :: high => (hexNumber low, hexNumber high)
  | [] => (hexNumber low, hexNumber low)

/-- The characters of the property. -/
def Property.ranges (p : Property) : CodeRanges :=
  p.written.flatMap fun line => (splitAtBlanks line.toList).map readRange

/-- The property of a name in a list. -/
def Property.find? (name : String) (properties : List Property) : Option Property :=
  properties.find? fun p => p.names.contains name

end Exchange.Regex
