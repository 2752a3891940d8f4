/-! # Reading YAML text by lines and columns

A cursor is what is left of a text and the place where it stands. Line breaks are line feeds,
carriage returns, both together, and the Unicode ones; they read as line feeds but for the Unicode
line and paragraph separators, which stand for themselves.
-/

namespace Exchange.Yaml

/-- A place in a text, counted from zero in characters. -/
structure Place where
  index : Nat
  line : Nat
  column : Nat
  deriving Repr, DecidableEq

/-- What is left of a text, and where it stands. -/
structure Cursor where
  rest : List Char
  place : Place

/-- Is the character a blank within a line? -/
def isBlank (c : Char) : Bool := c = ' ' || c = '\t'

/-- Does the character break a line? -/
def isBreak (c : Char) : Bool :=
  c = '\n' || c = '\r' || c = '\u0085' || c = '\u2028' || c = '\u2029'

namespace Cursor

/-- The cursor at the start of a text. -/
def start (cs : List Char) : Cursor := ⟨cs, ⟨0, 0, 0⟩⟩

/-- The column. -/
def column (c : Cursor) : Nat := c.place.column

/-- The character that is `k` characters ahead. -/
def ahead? (c : Cursor) (k : Nat) : Option Char := c.rest[k]?

/-- Is the text at its end, or a blank or a break, `k` characters ahead? -/
def spaceAhead (c : Cursor) (k : Nat) : Bool :=
  match c.ahead? k with
  | none => true
  | some d => isBlank d || isBreak d

/-- Skip characters of a line. -/
def skip (c : Cursor) (n : Nat) : Cursor :=
  ⟨c.rest.drop n, ⟨c.place.index + n, c.place.line, c.place.column + n⟩⟩

/-- Skip characters of a line while they satisfy a test. -/
def skipWhile (c : Cursor) (test : Char → Bool) : Cursor :=
  c.skip (c.rest.takeWhile test).length

/-- Take a line break: what it reads as, and the cursor at the start of the next line. -/
def takeBreak? (c : Cursor) : Option (Char × Cursor) :=
  let next (n : Nat) : Cursor := ⟨c.rest.drop n, ⟨c.place.index + n, c.place.line + 1, 0⟩⟩
  match c.rest with
  | '\r' :: '\n' :: _ => some ('\n', next 2)
  | d :: _ =>
    if isBreak d then some (if d = '\u2028' ∨ d = '\u2029' then d else '\n', next 1) else none
  | [] => none

/-- Does a mark of three equal characters stand here at the start of a line? -/
def atMark (c : Cursor) (mark : Char) : Bool :=
  c.column = 0 && [mark, mark, mark].isPrefixOf c.rest && c.spaceAhead 3

/-- Does the start or the end of a document stand here? -/
def atDocumentMark (c : Cursor) : Bool := c.atMark '-' || c.atMark '.'

end Cursor

end Exchange.Yaml
