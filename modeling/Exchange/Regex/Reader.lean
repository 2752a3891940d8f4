import Exchange.Regex.Automaton
import Exchange.Regex.Class
import Exchange.Regex.Search

/-! # Reading patterns

The grammar of patterns: alternatives, repetition, groups with names and flags, classes with set
operations, escapes, and conditions on positions. There is no look-around and no back-reference.
Flags hold from where they are set to the end of the group. What is nested too deep or would take
too much room is no pattern.

The modules on patterns stand for the package `regex`. Of it is assumed that it takes just these
patterns, with the limits of its defaults, and finds them in the texts in which `Regex.Search` does.
-/

namespace Exchange.Regex

open Exchange.Text (CodeRanges)

/-! ## Repetition -/

namespace Flags

/-- Take decimal digits, at most `fuel`. -/
def takeDigits (flags : Flags) (fuel : Nat) (cs : List Char) : List Char × List Char :=
  match fuel, cs with
  | fuel + 1, c :: rest =>
    if c.isDigit then
      let (digits, rest) := takeDigits flags fuel (flags.skip rest)
      (c :: digits, rest)
    else ([], cs)
  | _, _ => ([], cs)

/-- Read a decimal number of 32 bits with blanks around it. -/
def readCount? (flags : Flags) (fuel : Nat) (cs : List Char) : Option (Nat × List Char) :=
  let (digits, rest) := flags.takeDigits fuel (cs.dropWhile Text.isBlank)
  let n := digits.foldl (fun n c => 10 * n + (c.toNat - 48)) 0
  if digits = [] ∨ Nat.pow 2 32 ≤ n then none else some (n, rest.dropWhile Text.isBlank)

/-- Read the bounds of a repetition whose opening brace is gone. -/
def readBounds? (flags : Flags) (fuel : Nat) (cs : List Char) :
    Option (Nat × Option Nat × List Char) := do
  let (min, rest) ← flags.readCount? fuel (flags.skip cs)
  match rest with
  | '\x7d' :: rest => some (min, some min, rest)
  | ',' :: rest =>
    match flags.skip rest with
    | '\x7d' :: rest => some (min, none, rest)
    | rest => do
      let (max, rest) ← flags.readCount? fuel rest
      match rest with
      | '\x7d' :: rest => if min ≤ max then some (min, some max, rest) else none
      | _ => none
  | _ => none

end Flags

/-- Take the mark that makes a repetition take as little as possible. -/
def takeLazyMark : List Char → Bool × List Char
  | '?' :: rest => (true, rest)
  | cs => (false, cs)

/-! ## Groups -/

/-- The flags written at the start of a group: what they make of the flags in force, whether any
    is written, and what follows. -/
def readFlags? (flags : Flags) (seen : List Char) : List Char → Option (Flags × Bool × List Char)
  | [] => none
  | c :: rest =>
    if c = ':' ∨ c = ')' then
      if seen.head? = some '-' then none else some (flags, seen ≠ [], c :: rest)
    else if seen.contains c then none
    else if c = '-' then readFlags? flags (c :: seen) rest
    else
      match flags.set? (!seen.contains '-') c with
      | some flags => readFlags? flags (c :: seen) rest
      | none => none

/-- Letters that are newer than the properties of patterns, from Unicode 17. -/
def newLetters : CodeRanges := [
  (0x88F, 0x88F), (0xC5C, 0xC5C), (0xCDC, 0xCDC), (0xA7CE, 0xA7CF), (0xA7D2, 0xA7D2),
  (0xA7D4, 0xA7D4), (0xA7F1, 0xA7F1), (0x10940, 0x10959), (0x10EC5, 0x10EC7), (0x10EFA, 0x10EFB),
  (0x11B60, 0x11B67), (0x11DB0, 0x11DDB), (0x16EA0, 0x16EB8), (0x16EBB, 0x16ED3),
  (0x16FF2, 0x16FF6), (0x187F8, 0x187FF), (0x18D09, 0x18D1E), (0x18D80, 0x18DF2),
  (0x1E6C0, 0x1E6DE), (0x1E6E0, 0x1E6F5), (0x1E6FE, 0x1E6FF), (0x2B73A, 0x2B73F),
  (0x2CEA2, 0x2CEAD), (0x323B0, 0x33479)]

/-- Numerals that are newer than the properties of patterns and no letters. -/
def newNumerals : CodeRanges := [(0x11DE0, 0x11DE9)]

/-- May the name of a group start with the character? -/
def startsName (c : Char) : Bool :=
  c = '_' || c.isAlpha ||
    (0x80 ≤ c.toNat && (alphabetic.contains c.toNat || newLetters.contains c.toNat))

/-- May the name of a group go on with the character? -/
def continuesName (c : Char) : Bool :=
  startsName c || c = '.' || c = '[' || c = ']' || c.isDigit ||
    (0x80 ≤ c.toNat &&
      ((categories ["nd", "nl", "no"]).contains c.toNat || newNumerals.contains c.toNat))

/-- Read the name of a group up to the closing angle bracket. -/
def readName? (cs : List Char) : Option (String × List Char) :=
  let name := cs.takeWhile (· ≠ '>')
  match name, cs.drop name.length with
  | c :: more, '>' :: rest =>
    if startsName c && more.all continuesName then some (String.ofList name, rest) else none
  | _, _ => none

/-- Does a group that starts like this look around? -/
def looksAround (cs : List Char) : Bool :=
  [['?', '='], ['?', '!'], ['?', '<', '='], ['?', '<', '!']].any (·.isPrefixOf cs)

/-- How the inside of a group is read, and what becomes of its match. -/
inductive GroupStart where
  /-- Flags for the rest of the group around; nothing is opened. -/
  | flags (flags : Flags)
  /-- A group without a number, under flags of its own. -/
  | plain (flags : Flags)
  /-- A group whose match is kept, perhaps under a name. -/
  | kept (name : Option String)

/-- Read the start of a group behind its parenthesis. -/
def readGroupStart? (flags : Flags) (cs : List Char) : Option (GroupStart × List Char) :=
  let cs := flags.skip cs
  if looksAround cs then none
  else match cs with
    | '?' :: 'P' :: '<' :: rest => (readName? rest).map fun (n, rest) => (.kept (some n), rest)
    | '?' :: '<' :: rest => (readName? rest).map fun (n, rest) => (.kept (some n), rest)
    | '?' :: rest => do
      let (inner, any, rest) ← readFlags? flags [] rest
      match rest with
      | ')' :: rest => if any then some (.flags inner, rest) else none
      | _ :: rest => some (.plain inner, rest)
      | [] => none
    | _ => some (.kept none, cs)

/-! ## Pieces -/

/-- A piece of a pattern as it is written. -/
structure Piece where
  pattern : Pattern
  /-- How deep what it is made of is nested. -/
  depth : Nat := 0
  /-- Can it be repeated? -/
  repeatable : Bool := true

namespace Piece

/-- One level above pieces, if they are several; the depth of the deepest of them. -/
def depthAbove (pieces : List Piece) : Nat :=
  let depth := pieces.foldl (fun n p => max n p.depth) 0
  if pieces.length < 2 then depth else depth + 1

/-- Pieces, one after the other. -/
def ofParts (pieces : List Piece) : Piece :=
  { pattern := Pattern.ofParts (pieces.map pattern), depth := depthAbove pieces }

/-- Pieces to choose from. -/
def ofBranches (pieces : List Piece) : Piece :=
  { pattern := Pattern.ofBranches (pieces.map pattern), depth := depthAbove pieces }

/-- A piece from `min` to `max` times. -/
def repeated (min : Nat) (max : Option Nat) (greedy : Bool) (p : Piece) : Piece :=
  { pattern := Pattern.repeated min max greedy p.pattern, depth := p.depth + 1 }

/-- A piece in a group. -/
def grouped (kept : Bool) (p : Piece) : Piece :=
  { pattern := if kept then .group p.pattern else p.pattern, depth := p.depth + 1 }

end Piece

/-- What the reader carries along within a group. -/
structure Reading where
  /-- The flags in force. -/
  flags : Flags
  /-- The names of groups so far. -/
  names : List String := []
  /-- The finished branches, the last one first. -/
  branches : List Piece := []
  /-- The finished parts of the present branch, the last one first. -/
  parts : List Piece := []

namespace Reading

/-- Add a part to the present branch. -/
def push (r : Reading) (p : Piece) : Reading := { r with parts := p :: r.parts }

/-- The present branch. -/
def branch (r : Reading) : Piece := Piece.ofParts r.parts.reverse

/-- Finish the present branch. -/
def nextBranch (r : Reading) : Reading :=
  { r with branches := r.branch :: r.branches, parts := [] }

/-- All that has been read of the group. -/
def whole (r : Reading) : Piece :=
  if r.branches.isEmpty then r.branch else Piece.ofBranches r.nextBranch.branches.reverse

/-- Repeat the last part, if it can be. -/
def repeatLast? (r : Reading) (min : Nat) (max : Option Nat) (lazy : Bool) : Option Reading :=
  match r.parts with
  | p :: before =>
    if p.repeatable then
      some { r with parts := p.repeated min max (lazy == r.flags.swapGreed) :: before }
    else none
  | [] => none

/-- Start to read the inside of a group, unless its name has been used. -/
def enter? (r : Reading) : GroupStart → Option Reading
  | .kept none => some { flags := r.flags, names := r.names }
  | .kept (some name) =>
    if r.names.contains name then none
    else some { flags := r.flags, names := name :: r.names }
  | .plain flags => some { flags := flags, names := r.names }
  | .flags _ => none

end Reading

/-- Read the bounds of a repetition whose sign is the first character, and its mark. -/
def readRepetition? (flags : Flags) (fuel : Nat) : List Char →
    Option (Nat × Option Nat × Bool × List Char)
  | '?' :: rest => let (lazy, rest) := takeLazyMark rest; some (0, some 1, lazy, rest)
  | '*' :: rest => let (lazy, rest) := takeLazyMark rest; some (0, none, lazy, rest)
  | '+' :: rest => let (lazy, rest) := takeLazyMark rest; some (1, none, lazy, rest)
  | '\x7b' :: rest => do
    let (min, max, rest) ← flags.readBounds? fuel rest
    let (lazy, rest) := takeLazyMark (flags.skip rest)
    some (min, max, lazy, rest)
  | _ => none

/-- Read a part that is neither a group nor a repetition; `fuel` is at least twice the length of the
    text. -/
def readPart? (flags : Flags) (fuel : Nat) : List Char → Option (Piece × List Char)
  | [] => none
  | c :: rest =>
    match c with
    | '[' => (readClass? flags fuel maxNesting rest).map fun (p, rest) =>
      (⟨.ofSet p.set, p.depth, true⟩, rest)
    | '\\' => do
      let (atom, rest) ← flags.readEscape? fuel rest
      let p ← flags.atom? atom
      some ({ pattern := p }, rest)
    | '.' => flags.dot?.map fun p => ({ pattern := p }, rest)
    | '^' => some ({ pattern := .look flags.lineStart }, rest)
    | '$' => some ({ pattern := .look flags.lineEnd }, rest)
    | _ => (flags.char? c false).map fun p => ({ pattern := p }, rest)

/-- Read a pattern up to the end of its group; `fuel` is more than twice the length of the text, and
    `room` is how deep groups may be nested. -/
def readGroup? : (fuel room : Nat) → Reading → List Char → Option (Reading × List Char)
  | 0, _, _, _ => none
  | fuel + 1, room, r, cs =>
    match r.flags.skip cs with
    | [] => some (r, [])
    | c :: rest =>
      if c = ')' then some (r, c :: rest)
      else if c = '|' then readGroup? fuel room r.nextBranch rest
      else if c = '(' then
        match readGroupStart? r.flags rest with
        | none => none
        | some (.flags flags, rest) =>
          let set : Piece := { pattern := .empty, repeatable := false }
          readGroup? fuel room { r.push set with flags := flags } rest
        | some (start, rest) =>
          match room, r.enter? start with
          | room + 1, some inner =>
            match readGroup? fuel room inner rest with
            | some (inside, ')' :: rest) =>
              let kept := match start with
                | .kept _ => true
                | _ => false
              let group := inside.whole.grouped kept
              readGroup? fuel (room + 1) { r.push group with names := inside.names } rest
            | _ => none
          | _, _ => none
      else if c = '?' ∨ c = '*' ∨ c = '+' ∨ c = '\x7b' then
        match readRepetition? r.flags fuel (c :: rest) with
        | none => none
        | some (min, max, lazy, rest) =>
          match r.repeatLast? min max lazy with
          | some r => readGroup? fuel room r rest
          | none => none
      else
        match readPart? r.flags fuel (c :: rest) with
        | some (p, rest) => readGroup? fuel room (r.push p) rest
        | none => none

/-- Read a pattern. Nothing is read of a text that is no pattern. -/
def read? (text : String) : Option Pattern := do
  let cs := text.toList
  let (r, rest) ← readGroup? (2 * cs.length + 3) maxNesting { flags := {} } cs
  let p := r.whole
  if rest = [] ∧ p.depth ≤ maxNesting ∧ p.pattern.fits then some p.pattern else none

end Exchange.Regex
