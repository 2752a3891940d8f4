import Exchange.Regex.Flags
import Exchange.Regex.NamedSet

/-! # Escapes

What may follow a backslash in a pattern: characters by name or by number, sets of characters, and
conditions on positions. There are no back-references. The readers here take a bound `fuel` on the
number of characters that they read one by one.
-/

namespace Exchange.Regex

open Exchange.Text (CodeRanges)

/-- What an escape or a single character stands for. -/
inductive Atom where
  /-- A character; `byte` says that it was written as a byte. -/
  | char (c : Char) (byte : Bool)
  | set (ranges : CodeRanges)
  | look (l : Look)

/-- The pattern of an atom under flags. -/
def Flags.atom? (flags : Flags) : Atom → Option Pattern
  | .char c byte => flags.char? c byte
  | .set ranges => some (.ofSet ranges)
  | .look l => some (.look l)

/-- The value of a hexadecimal digit. -/
def hexDigit? (c : Char) : Option Nat :=
  if '0' ≤ c ∧ c ≤ '9' then some (c.toNat - 48)
  else if 'a' ≤ c ∧ c ≤ 'f' then some (c.toNat - 87)
  else if 'A' ≤ c ∧ c ≤ 'F' then some (c.toNat - 55)
  else none

/-- The character of a code point. -/
def charOf? (n : Nat) : Option Char :=
  if n < 0xD800 ∨ (0xE000 ≤ n ∧ n < 0x110000) then some (Char.ofNat n) else none

namespace Flags

/-- Read a fixed number of hexadecimal digits. -/
def takeHex? (flags : Flags) : Nat → Nat → List Char → Option (Nat × List Char)
  | 0, value, cs => some (value, cs)
  | count + 1, value, cs =>
    match flags.skip cs with
    | c :: rest => (hexDigit? c).bind fun d => takeHex? flags count (value * 16 + d) rest
    | [] => none

/-- Take characters up to a closing brace, of which the opening one is gone. -/
def takeBraced? (flags : Flags) (fuel : Nat) (cs : List Char) : Option (List Char × List Char) :=
  match fuel with
  | 0 => none
  | fuel + 1 =>
    match flags.skip cs with
    | [] => none
    | '\x7d' :: rest => some ([], rest)
    | c :: rest => (takeBraced? flags fuel rest).map fun (inner, rest) => (c :: inner, rest)

/-- Read what follows `\x`, `\u` or `\U`. -/
def readHex? (flags : Flags) (fuel digits : Nat) (cs : List Char) :
    Option (Char × Bool × List Char) :=
  match flags.skip cs with
  | '\x7b' :: rest => do
    let (inner, rest) ← flags.takeBraced? fuel rest
    let values ← inner.mapM hexDigit?
    if values = [] then none
    else
      let c ← charOf? (values.foldl (fun n d => n * 16 + d) 0)
      some (c, false, rest)
  | cs => do
    let (n, rest) ← flags.takeHex? digits 0 cs
    let c ← charOf? n
    some (c, digits = 2, rest)

/-- Read what follows `\p` or `\P`. -/
def readProperty? (flags : Flags) (fuel : Nat) (cs : List Char) :
    Option (CodeRanges × List Char) :=
  match flags.skip cs with
  | '\x7b' :: rest => do
    let (inner, rest) ← flags.takeBraced? fuel rest
    let s ← bracedSet? inner
    some (s, rest)
  | c :: rest => if c = '\\' then none else (namedSet? (looseName [c])).map (·, rest)
  | [] => none

/-- Characters of the name of a condition. -/
def isLookChar (c : Char) : Bool := c.isAlpha || c = '-'

/-- Take the characters of the name of a condition. -/
def takeLookName (flags : Flags) (fuel : Nat) (cs : List Char) : List Char × List Char :=
  match fuel, cs with
  | fuel + 1, c :: rest =>
    if isLookChar c then
      let (name, rest) := takeLookName flags fuel (flags.skip rest)
      (c :: name, rest)
    else ([], cs)
  | _, _ => ([], cs)

/-- The condition of a name. -/
def namedLook? (name : String) : Option WordLook :=
  match name with
  | "start" => some .start
  | "end" => some .stop
  | "start-half" => some .startHalf
  | "end-half" => some .stopHalf
  | _ => none

/-- The condition named in braces after `\b`. The braces may also belong to a repetition; then
    nothing is read. -/
def readWordLook? (flags : Flags) (fuel : Nat) (cs : List Char) : Option (WordLook × List Char) :=
  match cs with
  | '\x7b' :: inner =>
    match flags.skip inner with
    | [] => none
    | c :: rest =>
      if !isLookChar c then some (.boundary, cs)
      else match flags.takeLookName fuel (c :: rest) with
        | (name, '\x7d' :: rest) => (namedLook? (String.ofList name)).map (·, rest)
        | _ => none
  | _ => some (.boundary, cs)

end Flags

/-- Characters with a meaning in patterns. -/
def isMeta (c : Char) : Bool :=
  ['\\', '.', '+', '*', '?', '(', ')', '|', '[', ']', '\x7b', '\x7d', '^', '$', '#', '&', '-', '~'
    ].contains c

/-- Characters that may be escaped without need. -/
def isPlainEscape (c : Char) : Bool :=
  isMeta c || (c.toNat < 0x80 && !c.isAlphanum && c != '<' && c != '>')

/-- Read what follows a backslash. -/
def Flags.readEscape? (flags : Flags) (fuel : Nat) : List Char → Option (Atom × List Char)
  | [] => none
  | c :: rest =>
    let word (look : WordLook) : Atom := .look (.word look flags.unicode)
    match c with
    | 'x' => (flags.readHex? fuel 2 rest).map fun (c, byte, rest) => (.char c byte, rest)
    | 'u' => (flags.readHex? fuel 4 rest).map fun (c, _, rest) => (.char c false, rest)
    | 'U' => (flags.readHex? fuel 8 rest).map fun (c, _, rest) => (.char c false, rest)
    | 'p' | 'P' => do
      let (s, rest) ← flags.readProperty? fuel rest
      if flags.unicode then
        let s ← flags.negate? (c = 'P') (flags.fold s)
        some (.set s, rest)
      else none
    | 'd' | 'D' | 's' | 'S' | 'w' | 'W' => (flags.letterClass? c).map fun s => (.set s, rest)
    | 'a' => some (.char '\x07' false, rest)
    | 'f' => some (.char '\x0c' false, rest)
    | 't' => some (.char '\t' false, rest)
    | 'n' => some (.char '\n' false, rest)
    | 'r' => some (.char '\r' false, rest)
    | 'v' => some (.char '\x0b' false, rest)
    | 'A' => some (.look .textStart, rest)
    | 'z' => some (.look .textEnd, rest)
    | 'b' => (flags.readWordLook? fuel rest).map fun (look, rest) => (word look, rest)
    | 'B' => some (word .notBoundary, rest)
    | '<' => some (word .start, rest)
    | '>' => some (word .stop, rest)
    | _ => if isPlainEscape c then some (.char c false, rest) else none

end Exchange.Regex
