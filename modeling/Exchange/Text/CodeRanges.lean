/-! # Sets of code points

A set of characters given as closed ranges of code points, the form in which Unicode properties are
tabulated. The operations take and give ranges in ascending order with gaps between them. The
surrogates are no characters, and nothing is told of them.
-/

namespace Exchange.Text

/-- Closed ranges of code points, ascending and with gaps between them. -/
abbrev CodeRanges := List (Nat × Nat)

namespace CodeRanges

/-- The greatest code point. -/
def greatest : Nat := 0x10FFFF

/-- Membership; the ranges ascend, so the search ends at the first one that starts further up. -/
def contains : CodeRanges → Nat → Bool
  | [], _ => false
  | (low, high) :: rest, n => if n < low then false else n ≤ high || contains rest n

/-- The set of all characters. -/
def full : CodeRanges := [(0, greatest)]

/-- The set of one code point. -/
def single (n : Nat) : CodeRanges := [(n, n)]

/-- Join ranges without a gap between them to the last range so far. -/
def joinFrom (low high : Nat) : List (Nat × Nat) → CodeRanges
  | [] => [(low, high)]
  | (l, h) :: rest =>
    if l ≤ high + 1 then joinFrom low (max high h) rest else (low, high) :: joinFrom l h rest

/-- The set of the code points of some ranges in any order. -/
def ofList (ranges : List (Nat × Nat)) : CodeRanges :=
  match ranges.mergeSort (fun a b => a.1 ≤ b.1) with
  | [] => []
  | (low, high) :: rest => joinFrom low high rest

/-- The code points of either set. -/
def union (a b : CodeRanges) : CodeRanges := ofList (a ++ b)

/-- The code points of any of the sets. -/
def unions (sets : List CodeRanges) : CodeRanges := ofList sets.flatten

/-- The part of a range within a set. -/
def within (low high : Nat) : CodeRanges → CodeRanges
  | [] => []
  | (l, h) :: rest =>
    if high < l then []
    else if h < low then within low high rest
    else (max low l, min high h) :: within low high rest

/-- The code points of both sets. -/
def inter (a b : CodeRanges) : CodeRanges := a.flatMap fun (low, high) => b.within low high

/-- The character after a code point. -/
def after (n : Nat) : Nat := if n = 0xD7FF then 0xE000 else n + 1

/-- The character before a code point. -/
def before (n : Nat) : Nat := if n = 0xE000 then 0xD7FF else n - 1

/-- The characters from `low` on that are in none of the ranges. -/
def gapsFrom (low : Nat) : CodeRanges → CodeRanges
  | [] => if low ≤ greatest then [(low, greatest)] else []
  | (l, h) :: rest =>
    if low < l ∧ low ≤ before l then (low, before l) :: gapsFrom (after h) rest
    else gapsFrom (after h) rest

/-- The characters that are not in the set. -/
def compl (a : CodeRanges) : CodeRanges := gapsFrom 0 a

/-- The characters of the first set only. -/
def diff (a b : CodeRanges) : CodeRanges := inter a (compl b)

/-- The characters of exactly one of the sets. -/
def symmDiff (a b : CodeRanges) : CodeRanges := union (diff a b) (diff b a)

/-- All code points of a set are ASCII. -/
def isAscii (a : CodeRanges) : Bool := a.all fun (_, high) => high < 0x80

end CodeRanges

end Exchange.Text
