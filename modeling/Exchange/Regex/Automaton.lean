import Exchange.Regex.ByteRanges
import Exchange.Regex.Pattern
import Std.Data.HashMap

/-! # How large the automaton of a pattern is

A pattern is searched for by an automaton over the bytes of UTF-8, which reads forward, and by
another one which reads backward. Their states are counted here without building them. A pattern
whose automata take more room than `roomLimit` is refused.

Parts of an automaton are built one after the other, and each is then led to the next by setting
where its last state goes. States that branch off to others take room for every way out.
-/

namespace Exchange.Regex

open Exchange.Text (CodeRanges)

/-- The room for a state, without its ways out. -/
def stateRoom : Nat := 32

/-- The room for one of several bytes that a state reads. -/
def byteRoom : Nat := 8

/-- The room for one of the states that a state branches off to. -/
def branchRoom : Nat := 4

/-- The room that an automaton may take. -/
def roomLimit : Nat := 10 * 1024 * 1024

/-- What has been built of an automaton. -/
structure Built where
  /-- The number of states; the states are numbered in the order in which they are added. -/
  states : Nat := 0
  /-- The room for the ways out of the states. -/
  ways : Nat := 0
  deriving Repr, DecidableEq

namespace Built

/-- Add states and room for ways out, as long as there is room. -/
def add? (b : Built) (states ways : Nat) : Option Built :=
  let b : Built := ⟨b.states + states, b.ways + ways⟩
  if b.states * stateRoom + b.ways ≤ roomLimit then some b else none

end Built

/-- The last state of a part that has been built: does it branch off? If so, leading the part to
    another one takes room. -/
inductive Exit where
  | plain
  | branching
  deriving Repr, DecidableEq

/-- The room that leading a part to the next one takes. -/
def Exit.room : Exit → Nat
  | plain => 0
  | branching => branchRoom

/-- A part as a step that adds it to what has been built. -/
abbrev Part := Built → Option (Built × Exit)

/-! ## Classes beyond ASCII

States that read the same bytes and go the same ways are shared as far as a table of limited size
remembers them: every state has a slot, and a slot holds the state put there last.
-/

/-- Mix a number into the value that decides about the slot. -/
def mixIn (h : UInt64) (n : Nat) : UInt64 := (h ^^^ n.toUInt64) * 1099511628211

/-- The value before anything is mixed in. -/
def mixStart : UInt64 := 14695981039346656037

/-- A way out of a state: the bytes and the state that they lead to. -/
structure Way where
  bytes : ByteRange
  next : Nat
  deriving Repr, DecidableEq

/-- A state whose last way out is still open; the ways out that are settled stand in reverse. -/
structure OpenState where
  settled : List Way := []
  last : Option ByteRange := none

/-- The ways out of the state once the last one leads to a state, in reverse. -/
def OpenState.settle (s : OpenState) (next : Nat) : List Way :=
  match s.last with
  | some bytes => ⟨bytes, next⟩ :: s.settled
  | none => s.settled

/-- A class that is being built: the number of states, the room for their ways out, and the states
    that are remembered. -/
structure ClassBuilt where
  built : Built
  slots : Std.HashMap Nat (List Way × Nat) := {}

/-- How many states a forward class remembers. -/
def forwardSlots : Nat := 10000

/-- Add a state with some ways out unless it is remembered; the number of the state. -/
def ClassBuilt.state (c : ClassBuilt) (ways : List Way) : ClassBuilt × Nat :=
  let mixed := ways.foldr (fun w h => mixIn (mixIn (mixIn h w.bytes.low) w.bytes.high) w.next)
    mixStart
  let slot := (mixed % forwardSlots.toUInt64).toNat
  match (c.slots[slot]?).bind fun (known, state) => if known = ways then some state else none with
  | some state => (c, state)
  | none =>
    let id := c.built.states
    (⟨⟨id + 1, c.built.ways + byteRoom * ways.length⟩, c.slots.insert slot (ways, id)⟩, id)

/-- Close open states, each of which leads to the next and the last of which leads to the target;
    the number of the first one. -/
def closeStates (target : Nat) (c : ClassBuilt) : List OpenState → ClassBuilt × Nat
  | [] => (c, target)
  | s :: deeper =>
    let (c, next) := closeStates target c deeper
    c.state (s.settle next)

/-- Add a row of byte ranges to the open states along the row before it. -/
def addRow (target : Nat) (c : ClassBuilt) :
    List ByteRange → List OpenState → ClassBuilt × List OpenState
  | range :: row, s :: deeper =>
    if s.last = some range then
      let (c, deeper) := addRow target c row deeper
      (c, s :: deeper)
    else
      let (c, next) := closeStates target c deeper
      (c, ⟨s.settle next, some range⟩ :: row.map fun r => ⟨[], some r⟩)
  | _, states => (c, states)

/-- A class that is read forward. -/
def forwardClass (ranges : CodeRanges) : Part := fun b =>
  let target := b.states
  let start : ClassBuilt × List OpenState := (⟨⟨target + 1, b.ways⟩, {}⟩, [{}])
  let (c, states) := (ranges.flatMap byteRows).foldl
    (fun (c, states) row => addRow target c row states) start
  let (c, _) := closeStates target c states
  (c.built.add? 0 0).map (·, .plain)

/-- How many states a backward class remembers. -/
def backwardSlots : Nat := 1000

/-- A class that is read backward, while it is built. -/
structure BackwardBuilt where
  built : Built
  slots : Std.HashMap Nat (ByteRange × Nat × Nat) := {}

/-- Add a state that reads a byte and goes on to a state, unless it is remembered; its number. -/
def BackwardBuilt.state (c : BackwardBuilt) (next : Nat) (range : ByteRange) :
    BackwardBuilt × Nat :=
  let mixed := mixIn (mixIn (mixIn mixStart next) range.low) range.high
  let slot := (mixed % backwardSlots.toUInt64).toNat
  match (c.slots[slot]?).bind fun (r, n, state) =>
      if r = range ∧ n = next then some state else none with
  | some state => (c, state)
  | none =>
    let id := c.built.states
    (⟨⟨id + 1, c.built.ways⟩, c.slots.insert slot (range, next, id)⟩, id)

/-- Add a row of byte ranges to a class that is read backward and branches off to every row. -/
def BackwardBuilt.addRow (target : Nat) (c : BackwardBuilt) (row : List ByteRange) :
    BackwardBuilt :=
  let (c, _) := row.foldl (fun (c, next) range => c.state next range) (c, target)
  { c with built.ways := c.built.ways + branchRoom }

/-- A class that is read backward. -/
def backwardClass (ranges : CodeRanges) : Part := fun b =>
  let target := b.states + 1
  let c := (ranges.flatMap byteRows).foldl (BackwardBuilt.addRow target)
    ⟨⟨b.states + 2, b.ways⟩, {}⟩
  (c.built.add? 0 0).map (·, .plain)

/-- How often a choice of texts ends at a state where these rests of texts go on. Ends before the
    first text that goes on count once. -/
def endsAmong (rests : List (List UInt8)) : Nat :=
  let first := rests.takeWhile (·.isEmpty)
  min 1 first.length + (rests.drop first.length).countP (·.isEmpty)

/-- The rests of texts between the ends among them. -/
def betweenEnds (rests : List (List UInt8)) : List (List (List UInt8)) :=
  let groups := rests.foldr (fun rest groups => match rest, groups with
    | [], groups => [] :: groups
    | rest, group :: groups => (rest :: group) :: groups
    | rest, [] => [[rest]]) [[]]
  groups.filter (!·.isEmpty)

/-- The first bytes of texts, each once. -/
def firstBytes (texts : List (List UInt8)) : List UInt8 := (texts.filterMap List.head?).eraseDups

/-- What follows a byte in the texts that start with it. -/
def following (byte : UInt8) (texts : List (List UInt8)) : List (List UInt8) :=
  texts.filterMap fun text => match text with
    | b :: rest => if b = byte then some rest else none
    | [] => none

/-- The states of a tree of texts of at most some length: for each state of the tree, one that
    branches off, and one for the texts between two ends. -/
def treeRoom : Nat → List (List UInt8) → Built
  | 0, _ => {}
  | length + 1, texts =>
    let groups := betweenEnds texts
    let room (total : Built) (group : List (List UInt8)) : Built :=
      let bytes := firstBytes group
      let own : Built := ⟨1, if bytes.length < 2 then 0 else byteRoom * bytes.length⟩
      bytes.foldl (fun total byte =>
        let rests := following byte group
        if rests.all (·.isEmpty) then total
        else
          let below := treeRoom length rests
          ⟨total.states + below.states, total.ways + below.ways⟩)
        ⟨total.states + own.states, total.ways + own.ways⟩
    groups.foldl room ⟨1, branchRoom * (groups.length + endsAmong texts)⟩

/-- A choice of texts. -/
def choiceOfTexts (texts : List (List UInt8)) : Part := fun b =>
  let longest := texts.foldl (fun n text => max n text.length) 0
  let tree := treeRoom (longest + 1) texts
  (b.add? (tree.states + 1) tree.ways).map (·, .plain)

/-- A part of a number of states that do not branch off. -/
def plainStates (n : Nat) (ways : Nat := 0) : Part := fun b => (b.add? n ways).map (·, .plain)

/-- Add a part and lead the parts before it to it. -/
def goOn (part : Part) (so : Built × Exit) : Option (Built × Exit) := do
  let (b, exit) ← part so.1
  some (← b.add? 0 so.2.room, exit)

/-- Parts in a row. -/
def row : List Part → Part
  | [] => plainStates 1
  | part :: rest => fun b => do rest.foldlM (fun so part => goOn part so) (← part b)

/-- Add a part some more times. -/
def goOnTimes (part : Part) : Nat → Built × Exit → Option (Built × Exit)
  | 0, so => some so
  | n + 1, so => do goOnTimes part n (← goOn part so)

/-- A part a number of times. -/
def copies (part : Part) : Nat → Part
  | 0 => plainStates 1
  | n + 1 => fun b => do goOnTimes part n (← part b)

/-- A part that may be left out. -/
def optionalPart (part : Part) : Part := fun b => do
  let (b, exit) ← part (← b.add? 1 0)
  some (← b.add? 1 (2 * branchRoom + exit.room), .plain)

/-- A part any number of times, where it always reads something. -/
def anyTimes (part : Part) : Part := fun b => do
  let (b, exit) ← part (← b.add? 1 0)
  some (← b.add? 0 (branchRoom + exit.room), .branching)

/-- A part any number of times, where it may read nothing. -/
def anyTimesOrNothing (part : Part) : Part := fun b => do
  let (b, exit) ← part b
  some (← b.add? 3 (4 * branchRoom + exit.room), .plain)

/-- A part that is repeated after it has been added once. -/
def again (so : Built × Exit) : Option (Built × Exit) := do
  some (← so.1.add? 1 (branchRoom + so.2.room), .branching)

/-- A part at least a number of times, but at least once. -/
def atLeast (part : Part) (n : Nat) : Part := fun b => do again (← copies part n b)

/-- Add a part that may be left out with all that follows, some more times. -/
def goOnAtMost (part : Part) : Nat → Built × Exit → Option (Built × Exit)
  | 0, so => some so
  | n + 1, (b, exit) => do
    let (b, next) ← part (← b.add? 1 0)
    goOnAtMost part n (← b.add? 0 (2 * branchRoom + exit.room), next)

/-- A part from `min` to `max` times. -/
def between (part : Part) (min max : Nat) : Part := fun b => do
  let (b, exit) ← copies part min b
  let (b, exit) ← goOnAtMost part (max - min) (← b.add? 1 0, exit)
  some (← b.add? 0 exit.room, .plain)

/-- A part to choose among others. -/
def branch (part : Part) (b : Built) : Option Built := do
  let (b, exit) ← part b
  b.add? 0 (branchRoom + exit.room)

/-- Parts to choose from, at least two. -/
def choice : List Part → Part
  | first :: second :: rest => fun b => do
    let b ← branch second (← branch first b)
    some (← rest.foldlM (fun b part => branch part b) (← b.add? 2 0), .plain)
  | _ => plainStates 1

/-- The way in which an automaton reads a text. -/
inductive Direction where
  | forward
  | backward
  deriving Repr, DecidableEq

/-- The bytes of texts, if all branches are texts. -/
def literalTexts? (branches : List Pattern) : Option (List (List UInt8)) :=
  branches.mapM fun p => match p with
    | .literal text => some (text.flatMap String.utf8EncodeChar)
    | _ => none

/-- A class of characters. -/
def classPart (direction : Direction) (ranges : CodeRanges) : Part :=
  if ranges.isAscii then plainStates 2 (byteRoom * ranges.length)
  else match direction with
    | .forward => forwardClass ranges
    | .backward => backwardClass ranges

/-- A group; only the automaton that reads forward keeps where it starts and ends. -/
def groupPart (direction : Direction) (part : Part) : Part :=
  match direction with
  | .forward => fun b => do
    let (b, exit) ← part (← b.add? 1 0)
    some (← b.add? 1 exit.room, .plain)
  | .backward => part

mutual
/-- A pattern as a part of an automaton. -/
def Pattern.part (direction : Direction) : Pattern → Part
  | .empty => plainStates 1
  | .literal text => plainStates (text.flatMap String.utf8EncodeChar).length
  | .set ranges => classPart direction ranges
  | .look _ => plainStates 1
  | .times 0 (some 1) _ a => optionalPart (a.part direction)
  | .times 0 none _ a =>
    if a.readsSomething then anyTimes (a.part direction)
    else anyTimesOrNothing (a.part direction)
  | .times min none _ a => atLeast (a.part direction) min
  | .times min (some max) _ a =>
    if min = max then copies (a.part direction) min else between (a.part direction) min max
  | .group a => groupPart direction (a.part direction)
  | .concat ps =>
    let parts := partsOf direction ps
    row (if direction = .backward then parts.reverse else parts)
  | .alternation bs =>
    match literalTexts? bs with
    | some texts =>
      choiceOfTexts (if direction = .backward then texts.map List.reverse else texts)
    | none => choice (partsOf direction bs)

/-- Patterns as parts of an automaton. -/
def partsOf (direction : Direction) : List Pattern → List Part
  | [] => []
  | p :: rest => p.part direction :: partsOf direction rest
end

/-- The automaton of a pattern, if there is room for it. A pattern that may start anywhere is led
    to from any number of bytes. -/
def Pattern.automaton? (p : Pattern) (direction : Direction) : Option Built := do
  let anchored := match direction with
    | .forward => p.startsAtStart
    | .backward => p.endsAtEnd
  let start : Built := {}
  let b ← if anchored then start.add? 1 0 else start.add? 3 (2 * branchRoom + byteRoom)
  let (b, exit) ← groupPart direction (p.part direction) b
  b.add? 1 exit.room

/-- How many texts to choose from are searched for without an automaton. -/
def manyTexts : Nat := 3000

/-- Is the pattern a choice of so many texts that no automaton is built? -/
def Pattern.isManyTexts : Pattern → Bool
  | .alternation bs => manyTexts ≤ bs.length && (literalTexts? bs).isSome
  | _ => false

/-- Is there room for the pattern? -/
def Pattern.fits (p : Pattern) : Bool :=
  p.isManyTexts ||
    ((p.automaton? .forward).isSome && (p.automaton? .backward).isSome)

end Exchange.Regex
