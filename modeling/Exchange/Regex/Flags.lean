import Exchange.Regex.Folding
import Exchange.Regex.Pattern
import Exchange.Text.Blank

/-! # Flags

The flags that are in force where a part of a pattern stands, and what they make of it: which texts
count as blanks, what classes mean, and where lines end.
-/

namespace Exchange.Regex

open Exchange.Text (CodeRanges)

/-- The flags of a pattern. -/
structure Flags where
  /-- `i`: letter case does not count. -/
  ignoreCase : Bool := false
  /-- `m`: the anchors match at lines. -/
  multiLine : Bool := false
  /-- `s`: the dot matches line ends. -/
  dotAll : Bool := false
  /-- `u`: classes are those of Unicode. -/
  unicode : Bool := true
  /-- `U`: repetitions are greedy where a mark says that they are not, and the other way round. -/
  swapGreed : Bool := false
  /-- `x`: blanks and comments may be put between the parts. -/
  verbose : Bool := false
  /-- `R`: carriage returns end lines too. -/
  crlf : Bool := false

/-! ## Blanks and comments -/

/-- Skip blanks and comments where they may stand; `inComment` inside a comment. -/
def skipComments (inComment : Bool) : List Char → List Char
  | [] => []
  | c :: rest =>
    if inComment then skipComments (c != '\n') rest
    else if c = '#' then skipComments true rest
    else if Text.isBlank c then skipComments false rest
    else c :: rest

/-- The first character that is no blank. A comment sign is passed over once, but the text of the
    comment is not. -/
def firstVisible? (inComment : Bool) : List Char → Option Char
  | [] => none
  | c :: rest =>
    if Text.isBlank c then firstVisible? inComment rest
    else if c = '#' ∧ !inComment then firstVisible? true rest
    else some c

namespace Flags

/-- Skip what does not count. -/
def skip (flags : Flags) (cs : List Char) : List Char :=
  if flags.verbose then skipComments false cs else cs

/-- The character that tells whether a hyphen in front of it makes a range. -/
def lookAhead? (flags : Flags) (cs : List Char) : Option Char :=
  if flags.verbose then firstVisible? false cs <|> cs.head? else cs.head?

/-- Set one flag. -/
def set? (flags : Flags) (on : Bool) : Char → Option Flags
  | 'i' => some { flags with ignoreCase := on }
  | 'm' => some { flags with multiLine := on }
  | 's' => some { flags with dotAll := on }
  | 'u' => some { flags with unicode := on }
  | 'U' => some { flags with swapGreed := on }
  | 'x' => some { flags with verbose := on }
  | 'R' => some { flags with crlf := on }
  | _ => none

/-! ## Classes -/

/-- Disregard letter case where the flags say so. -/
def fold (flags : Flags) (set : CodeRanges) : CodeRanges :=
  if flags.ignoreCase then if flags.unicode then Regex.fold set else foldAscii set else set

/-- The characters that are not in a class. A class that stops right in front of the surrogates and
    goes on right behind them leaves the characters on both sides to its complement. -/
def outside (set : CodeRanges) : CodeRanges :=
  let around := set.any (fun r => r.2 == 0xD7FF) && set.any (fun r => r.1 == 0xE000)
  if around then set.compl.union [(0xD7FF, 0xD7FF), (0xE000, 0xE000)] else set.compl

/-- Turn a class round. A class of bytes has no complement among characters. -/
def negate? (flags : Flags) (negated : Bool) (set : CodeRanges) : Option CodeRanges :=
  if !negated then some set else if flags.unicode then some (outside set) else none

/-- The class of a one-letter class escape. -/
def letterClass? (flags : Flags) (c : Char) : Option CodeRanges :=
  let pick (unicode ascii : CodeRanges) : CodeRanges := if flags.unicode then unicode else ascii
  match c with
  | 'd' | 'D' => flags.negate? (c = 'D') (pick digitRanges [(0x30, 0x39)])
  | 's' | 'S' =>
    flags.negate? (c = 'S') (pick
      [(9, 13), (0x20, 0x20), (0x85, 0x85), (0xA0, 0xA0), (0x1680, 0x1680), (0x2000, 0x200A),
        (0x2028, 0x2029), (0x202F, 0x202F), (0x205F, 0x205F), (0x3000, 0x3000)]
      [(9, 13), (0x20, 0x20)])
  | 'w' | 'W' =>
    flags.negate? (c = 'W')
      (pick wordRanges [(0x30, 0x39), (0x41, 0x5A), (0x5F, 0x5F), (0x61, 0x7A)])
  | _ => none

/-- The pattern of a character; `byte` says that it was written as a byte. A byte beyond ASCII is no
    character. -/
def char? (flags : Flags) (c : Char) (byte : Bool) : Option Pattern :=
  if !flags.unicode && byte && 0x80 ≤ c.toNat then none
  else if flags.ignoreCase then some (.ofSet (flags.fold (CodeRanges.single c.toNat)))
  else some (.literal [c])

/-- The pattern of the dot. Without Unicode it would match bytes that are no characters. -/
def dot? (flags : Flags) : Option Pattern :=
  if !flags.unicode then none
  else some (.ofSet (
    if flags.dotAll then CodeRanges.full
    else CodeRanges.compl (if flags.crlf then [(10, 10), (13, 13)] else [(10, 10)])))

/-- The condition of the caret. -/
def lineStart (flags : Flags) : Look :=
  if flags.multiLine then if flags.crlf then .lineStartCrlf else .lineStart else .textStart

/-- The condition of the dollar sign. -/
def lineEnd (flags : Flags) : Look :=
  if flags.multiLine then if flags.crlf then .lineEndCrlf else .lineEnd else .textEnd

end Flags

end Exchange.Regex
