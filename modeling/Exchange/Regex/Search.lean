import Exchange.Regex.Pattern
import Exchange.Regex.WordTable

/-! # Where patterns match

A pattern sends a set of positions in a text to the set of positions that it can reach from them. A
set of positions is a natural number whose bit `i` stands for the position before character `i`, so
that reading one character of a class is a mask and a shift. A pattern is found in a text when it
reaches some position from some position.
-/

namespace Exchange.Regex

open Exchange.Text (CodeRanges)

/-- Word characters. -/
def isWordChar (unicode : Bool) (c : Char) : Bool :=
  if unicode then wordRanges.contains c.toNat else c.isAlphanum || c = '_'

/-- Does the condition hold between these two neighbours? -/
def Look.holds (before after : Option Char) : Look → Bool
  | textStart => before.isNone
  | textEnd => after.isNone
  | lineStart => before.isNone || before == some '\n'
  | lineEnd => after.isNone || after == some '\n'
  | lineStartCrlf =>
    before.isNone || before == some '\n' || (before == some '\r' && after != some '\n')
  | lineEndCrlf =>
    after.isNone || after == some '\r' || (after == some '\n' && before != some '\r')
  | word look unicode =>
    let before := before.any (isWordChar unicode)
    let after := after.any (isWordChar unicode)
    match look with
    | .boundary => before != after
    | .notBoundary => before == after
    | .start => !before && after
    | .stop => before && !after
    | .startHalf => !before
    | .stopHalf => !after

/-- The positions where a text stands. -/
def literalPositions (text : List Char) : List Char → Nat
  | [] => if text.isPrefixOf [] then 1 else 0
  | c :: rest =>
    (if text.isPrefixOf (c :: rest) then 1 else 0) + 2 * literalPositions text rest

/-- The positions before a character of a set. -/
def setPositions (set : CodeRanges) : List Char → Nat
  | [] => 0
  | c :: rest => (if set.contains c.toNat then 1 else 0) + 2 * setPositions set rest

/-- The positions where a condition holds; `before` is the character in front of the text. -/
def lookPositions (l : Look) (before : Option Char) : List Char → Nat
  | [] => if l.holds before none then 1 else 0
  | c :: rest =>
    (if l.holds before (some c) then 1 else 0) + 2 * lookPositions l (some c) rest

/-- Apply a step a number of times. -/
def exactly (step : Nat → Nat) : Nat → Nat → Nat
  | 0, positions => positions
  | n + 1, positions => if positions = 0 then 0 else exactly step n (step positions)

/-- Apply a step up to a number of times and collect what is reached. -/
def atMost (step : Nat → Nat) : Nat → Nat → Nat
  | 0, positions => positions
  | n + 1, positions =>
    let next := positions ||| step positions
    if next = positions then positions else atMost step n next

/-- A pattern for one text, in which texts, sets and conditions are the positions where they
    hold. -/
inductive Plan where
  | stay
  /-- Read a number of characters at some of the positions. -/
  | read (mask length : Nat)
  /-- Stay at some of the positions. -/
  | keep (mask : Nat)
  | seq (a b : Plan)
  | alt (a b : Plan)
  /-- A number of times, and then up to as many times more. -/
  | times (min more : Nat) (a : Plan)

mutual
/-- The pattern for a text. -/
def Pattern.plan (text : List Char) : Pattern → Plan
  | .empty => .stay
  | .literal s => .read (literalPositions s text) s.length
  | .set ranges => .read (setPositions ranges text) 1
  | .look l => .keep (lookPositions l none text)
  | .times min max _ a =>
    let more := match max with
      | some max => max - min
      | none => text.length + 1
    .times min more (a.plan text)
  | .group a => a.plan text
  | .concat parts => planParts text parts
  | .alternation branches => planBranches text branches

/-- Parts for a text, one after the other. -/
def planParts (text : List Char) : List Pattern → Plan
  | [] => .stay
  | p :: rest => .seq (p.plan text) (planParts text rest)

/-- Branches for a text. -/
def planBranches (text : List Char) : List Pattern → Plan
  | [] => .keep 0
  | p :: rest => .alt (p.plan text) (planBranches text rest)
end

/-- The positions that a plan reaches from some positions. -/
def Plan.reach : Plan → Nat → Nat
  | stay, positions => positions
  | read mask length, positions => (positions &&& mask) <<< length
  | keep mask, positions => positions &&& mask
  | seq a b, positions => b.reach (a.reach positions)
  | alt a b, positions => a.reach positions ||| b.reach positions
  | times min more a, positions => atMost a.reach more (exactly a.reach min positions)

/-- Is the pattern found in the text? -/
def Pattern.foundIn (p : Pattern) (text : String) : Bool :=
  let cs := text.toList
  (p.plan cs).reach (Nat.pow 2 (cs.length + 1) - 1) != 0

end Exchange.Regex
