import Exchange.Text.CodeRanges

/-! # Patterns

A pattern says which texts it matches and where. Patterns are built by the functions here that keep
them in a normal form: texts in a row are one text, single characters and classes to choose from are
one class, what all branches start with stands in front of them, and nothing is repeated needlessly.
-/

namespace Exchange.Regex

open Exchange.Text (CodeRanges)

/-- Conditions on the word characters before and after a position. -/
inductive WordLook where
  | boundary
  | notBoundary
  | start
  | stop
  | startHalf
  | stopHalf
  deriving Repr, DecidableEq

/-- Conditions on a position. -/
inductive Look where
  | textStart
  | textEnd
  /-- After a line feed or at the start. -/
  | lineStart
  /-- Before a line feed or at the end. -/
  | lineEnd
  /-- As `lineStart`, where carriage returns end lines too, but not between the two. -/
  | lineStartCrlf
  /-- As `lineEnd`, where carriage returns end lines too, but not between the two. -/
  | lineEndCrlf
  /-- A condition on words; `unicode` tells the word characters of all scripts from ASCII ones. -/
  | word (look : WordLook) (unicode : Bool)
  deriving Repr, DecidableEq

/-- A pattern. -/
inductive Pattern where
  /-- Matches without reading. -/
  | empty
  /-- A text of at least one character. -/
  | literal (text : List Char)
  /-- One character of a set; no text matches where the set is empty. -/
  | set (ranges : CodeRanges)
  /-- A condition on the position. -/
  | look (l : Look)
  /-- From `min` to `max` times, without an upper bound where there is none; if greedy, rather more
      often than less. -/
  | times (min : Nat) (max : Option Nat) (greedy : Bool) (a : Pattern)
  /-- A group whose match is kept. -/
  | group (a : Pattern)
  /-- Two or more parts, one after the other. -/
  | concat (parts : List Pattern)
  /-- Two or more branches to choose from. -/
  | alternation (branches : List Pattern)

namespace Pattern

mutual
/-- Are two patterns the same part of a whole? No two groups are, since each keeps its own match. -/
def same : Pattern → Pattern → Bool
  | empty, empty => true
  | literal s, literal t => s == t
  | set r, set s => r == s
  | look l, look m => l == m
  | times min max greedy a, times min' max' greedy' b =>
    min == min' && max == max' && greedy == greedy' && same a b
  | concat ps, concat qs => sameAll ps qs
  | alternation ps, alternation qs => sameAll ps qs
  | _, _ => false

/-- Are two lists of patterns the same? -/
def sameAll : List Pattern → List Pattern → Bool
  | [], [] => true
  | p :: ps, q :: qs => same p q && sameAll ps qs
  | _, _ => false
end

/-! ## Lengths -/

mutual
/-- The least number of characters that a match reads; none is known where some part never
    matches. -/
def minLength? : Pattern → Option Nat
  | empty | look _ => some 0
  | literal text => some text.length
  | set ranges => if ranges = [] then none else some 1
  | times min _ _ a => a.minLength?.map (min * ·)
  | group a => a.minLength?
  | concat parts => minLengthOfParts? parts
  | alternation branches => minLengthOfBranches? branches

/-- The least number of characters that parts in a row read. -/
def minLengthOfParts? : List Pattern → Option Nat
  | [] => some 0
  | p :: rest => do some ((← p.minLength?) + (← minLengthOfParts? rest))

/-- The least number of characters that one of some branches reads. -/
def minLengthOfBranches? : List Pattern → Option Nat
  | [] => none
  | [p] => p.minLength?
  | p :: rest => do some (min (← p.minLength?) (← minLengthOfBranches? rest))
end

mutual
/-- Does every match read nothing? A part that never matches is not taken for such. -/
def readsNothing : Pattern → Bool
  | empty | look _ => true
  | literal _ | set _ => false
  | times _ max _ a => max.isSome && a.readsNothing
  | group a => a.readsNothing
  | concat parts => allReadNothing parts
  | alternation branches => allReadNothing branches

/-- Do the matches of all these patterns read nothing? -/
def allReadNothing : List Pattern → Bool
  | [] => true
  | p :: rest => p.readsNothing && allReadNothing rest
end

/-- Does every match read something? -/
def readsSomething (p : Pattern) : Bool := p.minLength?.any (0 < ·)

/-! ## Anchors -/

mutual
/-- Does every match start at the start of the text? -/
def startsAtStart : Pattern → Bool
  | look l => l == .textStart
  | times min _ _ a => 0 < min && a.startsAtStart
  | group a => a.startsAtStart
  | concat parts => partsStartAtStart parts
  | alternation branches => allStartAtStart branches
  | _ => false

/-- Do parts in a row start at the start of the text? -/
def partsStartAtStart : List Pattern → Bool
  | [] => false
  | p :: rest => p.startsAtStart || (p.readsNothing && partsStartAtStart rest)

/-- Do all branches start at the start of the text? -/
def allStartAtStart : List Pattern → Bool
  | [] => true
  | p :: rest => p.startsAtStart && allStartAtStart rest
end

mutual
/-- Does every match end at the end of the text? -/
def endsAtEnd : Pattern → Bool
  | look l => l == .textEnd
  | times min _ _ a => 0 < min && a.endsAtEnd
  | group a => a.endsAtEnd
  | concat parts => partsEndAtEnd parts == some true
  | alternation branches => allEndAtEnd branches
  | _ => false

/-- Do parts in a row end at the end of the text? Nothing is said of parts that all read nothing and
    of which none ends there. -/
def partsEndAtEnd : List Pattern → Option Bool
  | [] => none
  | p :: rest =>
    match partsEndAtEnd rest with
    | some answer => some answer
    | none => if p.endsAtEnd then some true else if p.readsNothing then none else some false

/-- Do all branches end at the end of the text? -/
def allEndAtEnd : List Pattern → Bool
  | [] => true
  | p :: rest => p.endsAtEnd && allEndAtEnd rest
end

/-! ## Building patterns in normal form -/

/-- The pattern that never matches. -/
def never : Pattern := set []

/-- One character of a set; a set of one character is a text. -/
def ofSet (ranges : CodeRanges) : Pattern :=
  match ranges with
  | [(low, high)] => if low = high then literal [Char.ofNat low] else set ranges
  | _ => set ranges

/-- A pattern from `min` to `max` times. What reads nothing is not repeated. -/
def repeated (min : Nat) (max : Option Nat) (greedy : Bool) (a : Pattern) : Pattern :=
  let (min, max) :=
    if a.readsNothing then (Nat.min min 1, some (Nat.min (max.getD 1) 1)) else (min, max)
  if max = some 0 then empty
  else if min = 1 ∧ max = some 1 then a
  else times min max greedy a

/-- The parts that a pattern in a row of parts stands for. -/
def parts : Pattern → List Pattern
  | concat parts => parts
  | empty => []
  | p => [p]

/-- Put a part in front of parts. -/
def pushPart (p : Pattern) (rest : List Pattern) : List Pattern :=
  match p, rest with
  | literal s, literal t :: rest => literal (s ++ t) :: rest
  | p, rest => p :: rest

/-- Parts, one after the other. -/
def ofParts (ps : List Pattern) : Pattern :=
  match (ps.flatMap parts).foldr pushPart [] with
  | [] => empty
  | [p] => p
  | ps => concat ps

/-- The branches that a pattern among branches stands for. -/
def branches : Pattern → List Pattern
  | alternation branches => branches
  | p => [p]

/-- The set of a pattern that is a single character. -/
def singleSet? : Pattern → Option CodeRanges
  | literal [c] => some (CodeRanges.single c.toNat)
  | _ => none

/-- The set of a pattern that is a class. -/
def classSet? : Pattern → Option CodeRanges
  | set ranges => some ranges
  | _ => none

/-- Branches that are all single characters, or all classes, as one class. -/
def merged? (bs : List Pattern) : Option Pattern :=
  (bs.mapM singleSet? <|> bs.mapM classSet?).map fun sets => ofSet (CodeRanges.unions sets)

/-- The parts that two rows of parts start with. -/
def commonParts : List Pattern → List Pattern → List Pattern
  | p :: ps, q :: qs => if p.same q then p :: commonParts ps qs else []
  | _, _ => []

/-- The parts that all branches start with, if they all are rows of parts. -/
def commonStart : List Pattern → List Pattern
  | [concat ps] => ps
  | concat ps :: rest => commonParts ps (commonStart rest)
  | _ => []

/-- Branches to choose from, without regard to what they have in common. -/
def choose (bs : List Pattern) : Pattern :=
  match bs.flatMap branches with
  | [] => never
  | [p] => p
  | bs => (merged? bs).getD (alternation bs)

/-- Branches to choose from. What all start with is put in front; what is left of branches of which
    none goes on like all others has nothing more in common. -/
def ofBranches (bs : List Pattern) : Pattern :=
  match choose bs with
  | alternation bs =>
    match commonStart bs with
    | [] => alternation bs
    | start =>
      ofParts (start ++ [choose (bs.map fun p => ofParts (p.parts.drop start.length))])
  | p => p

end Pattern

end Exchange.Regex
