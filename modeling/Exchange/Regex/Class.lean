import Exchange.Regex.Escape

/-! # Bracketed classes

Classes between brackets hold characters, ranges, escapes, classes named between colons and other
bracketed classes, and may be put together by set operations, all of which bind alike from the left.
-/

namespace Exchange.Regex

open Exchange.Text (CodeRanges)

/-- How deep the parts of a pattern may be nested. -/
def maxNesting : Nat := 250

/-- The classes that are named between colons. -/
def colonClass? : String → Option CodeRanges
  | "alnum" => some [(0x30, 0x39), (0x41, 0x5A), (0x61, 0x7A)]
  | "alpha" => some [(0x41, 0x5A), (0x61, 0x7A)]
  | "ascii" => some [(0, 0x7F)]
  | "blank" => some [(9, 9), (0x20, 0x20)]
  | "cntrl" => some [(0, 0x1F), (0x7F, 0x7F)]
  | "digit" => some [(0x30, 0x39)]
  | "graph" => some [(0x21, 0x7E)]
  | "lower" => some [(0x61, 0x7A)]
  | "print" => some [(0x20, 0x7E)]
  | "punct" => some [(0x21, 0x2F), (0x3A, 0x40), (0x5B, 0x60), (0x7B, 0x7E)]
  | "space" => some [(9, 13), (0x20, 0x20)]
  | "upper" => some [(0x41, 0x5A)]
  | "word" => some [(0x30, 0x39), (0x41, 0x5A), (0x5F, 0x5F), (0x61, 0x7A)]
  | "xdigit" => some [(0x30, 0x39), (0x41, 0x46), (0x61, 0x66)]
  | _ => none

/-- Read a class between colons, behind whose bracket the text starts; nothing where there is
    none. -/
def readColonClass? (cs : List Char) : Option (Bool × CodeRanges × List Char) :=
  match cs with
  | ':' :: rest =>
    let (negated, rest) := match rest with
      | '^' :: rest => (true, rest)
      | _ => (false, rest)
    let name := rest.takeWhile (· ≠ ':')
    match rest.drop name.length with
    | ':' :: ']' :: rest => (colonClass? (String.ofList name)).map (negated, ·, rest)
    | _ => none
  | _ => none

/-! ## Items -/

namespace Flags

/-- Read one item of a class: a character or an escape. -/
def readItem? (flags : Flags) (fuel : Nat) : List Char → Option (Atom × List Char)
  | [] => none
  | '\\' :: rest => flags.readEscape? fuel rest
  | c :: rest => some (.char c false, rest)

/-- A character as an item of a class. Classes of bytes hold ASCII only. -/
def classChar? (flags : Flags) : Atom → Option Char
  | .char c _ => if flags.unicode || c.toNat < 0x80 then some c else none
  | _ => none

/-- An item of a class. -/
def classItem? (flags : Flags) : Atom → Option CodeRanges
  | .set s => some s
  | atom => (flags.classChar? atom).map fun c => CodeRanges.single c.toNat

/-- Read a range or a single item of a class. -/
def readRange? (flags : Flags) (fuel : Nat) (cs : List Char) :
    Option (CodeRanges × List Char) := do
  let (first, rest) ← flags.readItem? fuel cs
  match flags.skip rest with
  | [] => none
  | '-' :: more =>
    let next := flags.lookAhead? more
    if next = some ']' ∨ next = some '-' then
      let s ← flags.classItem? first
      some (s, '-' :: more)
    else
      let (last, rest) ← flags.readItem? fuel (flags.skip more)
      let low ← flags.classChar? first
      let high ← flags.classChar? last
      if low ≤ high then some ([(low.toNat, high.toNat)], rest) else none
  | rest => do
    let s ← flags.classItem? first
    some (s, rest)

end Flags

/-! ## Operations -/

/-- The operations between parts of a class. -/
inductive SetOp where
  | inter
  | diff
  | symmDiff
  deriving Repr, DecidableEq

/-- A part of a class, and how deep what it is made of is nested. -/
structure ClassPart where
  set : CodeRanges
  depth : Nat

/-- The items of a part of a class so far: their ranges in any order, how many they are, and how
    deep the deepest of them is nested. -/
structure Items where
  ranges : List (Nat × Nat) := []
  count : Nat := 0
  depth : Nat := 0

namespace Items

/-- Add an item. -/
def push (items : Items) (set : CodeRanges) (depth : Nat) : Items :=
  ⟨set ++ items.ranges, items.count + 1, max items.depth depth⟩

/-- The items as a part of a class. Several items are one level deeper than a single one. -/
def part (items : Items) : ClassPart :=
  ⟨CodeRanges.ofList items.ranges, if items.count < 2 then items.depth else items.depth + 1⟩

end Items

/-- A part of a class that waits for the right operand of an operation. -/
structure Pending where
  op : SetOp
  left : ClassPart

/-- Complete an operation, if one is waiting. -/
def Flags.complete (flags : Flags) (pending : Option Pending) (right : ClassPart) : ClassPart :=
  match pending with
  | none => right
  | some ⟨op, left⟩ =>
    let a := flags.fold left.set
    let b := flags.fold right.set
    let set := match op with
      | .inter => a.inter b
      | .diff => a.diff b
      | .symmDiff => a.symmDiff b
    ⟨set, max left.depth right.depth + 1⟩

/-! ## Whole classes -/

/-- Take the hyphens at the start of a class, which stand for themselves; `fuel` bounds their
    number. -/
def Flags.takeHyphens (flags : Flags) : Nat → Items → List Char → Items × List Char
  | fuel + 1, items, '-' :: rest =>
    flags.takeHyphens fuel (items.push (CodeRanges.single 0x2D) 0) (flags.skip rest)
  | _, items, cs => (items, cs)

/-- Read the start of a class behind its bracket: whether it is negated, and the hyphens or the
    closing bracket that stand for themselves. -/
def Flags.openClass (flags : Flags) (fuel : Nat) (cs : List Char) : Bool × Items × List Char :=
  let cs := flags.skip cs
  let (negated, cs) := match cs with
    | '^' :: rest => (true, flags.skip rest)
    | _ => (false, cs)
  let (items, cs) := flags.takeHyphens fuel {} cs
  match cs with
  | ']' :: rest =>
    if items.count = 0 then (negated, items.push (CodeRanges.single 0x5D) 0, flags.skip rest)
    else (negated, items, cs)
  | _ => (negated, items, cs)

mutual
/-- Read a class whose opening bracket is gone; `fuel` is at least twice the length of the text, and
    `room` is how deep the class may be nested. -/
def readClass? (flags : Flags) : (fuel room : Nat) → List Char → Option (ClassPart × List Char)
  | 0, _, _ => none
  | _, 0, _ => none
  | fuel + 1, room + 1, cs => do
    let (negated, items, cs) := flags.openClass fuel cs
    let (p, rest) ← readClassItems? flags fuel room none items cs
    let set ← flags.negate? negated (flags.fold p.set)
    some (⟨set, p.depth + 1⟩, rest)

/-- Read the items of a class up to its closing bracket. -/
def readClassItems? (flags : Flags) : (fuel room : Nat) → Option Pending → Items → List Char →
    Option (ClassPart × List Char)
  | 0, _, _, _, _ => none
  | fuel + 1, room, pending, items, cs =>
    match flags.skip cs with
    | [] => none
    | ']' :: rest => some (flags.complete pending items.part, rest)
    | '&' :: '&' :: rest =>
      readClassItems? flags fuel room (some ⟨.inter, flags.complete pending items.part⟩) {} rest
    | '-' :: '-' :: rest =>
      readClassItems? flags fuel room (some ⟨.diff, flags.complete pending items.part⟩) {} rest
    | '~' :: '~' :: rest =>
      readClassItems? flags fuel room (some ⟨.symmDiff, flags.complete pending items.part⟩) {} rest
    | '[' :: rest =>
      match readColonClass? rest with
      | some (negated, ranges, rest) =>
        match flags.negate? negated (flags.fold ranges) with
        | some s => readClassItems? flags fuel room pending (items.push s 0) rest
        | none => none
      | none =>
        match readClass? flags fuel room rest with
        | some (p, rest) => readClassItems? flags fuel room pending (items.push p.set p.depth) rest
        | none => none
    | cs =>
      match flags.readRange? fuel cs with
      | some (s, rest) => readClassItems? flags fuel room pending (items.push s 0) rest
      | none => none
end

end Exchange.Regex
