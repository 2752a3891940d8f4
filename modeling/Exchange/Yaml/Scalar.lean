import Exchange.Json.Reader
import Exchange.Yaml.Cursor

/-! # Scalars of YAML

The four ways of writing a scalar: plain, in single or double quotes, and as a block of lines, kept
as they are or folded. In all but kept blocks a single line break reads as a blank, and of more
breaks the first one is dropped.
-/

namespace Exchange.Yaml

/-- Blanks and breaks between words. -/
structure Gap where
  /-- Blanks before the first break. -/
  blanks : List Char := []
  /-- The first break. -/
  first : Option Char := none
  /-- Whether there is a break, or one that was escaped. -/
  broken : Bool := false
  /-- Further breaks. -/
  more : List Char := []
  deriving Repr, DecidableEq

/-- What a gap reads as. -/
def Gap.text (g : Gap) : List Char :=
  if !g.broken then g.blanks
  else match g.first with
    | some '\n' => if g.more = [] then [' '] else g.more
    | first => first.toList ++ g.more

/-- Take the blanks and breaks of a gap. Behind a break no tab may stand left of column `limit`. -/
def takeGap? (limit : Nat) : Nat → Gap → Cursor → Option (Gap × Cursor)
  | 0, _, _ => none
  | fuel + 1, gap, c =>
    match c.takeBreak? with
    | some (d, next) =>
      if gap.broken then takeGap? limit fuel { gap with more := gap.more ++ [d] } next
      else takeGap? limit fuel { gap with blanks := [], first := some d, broken := true } next
    | none => match c.ahead? 0 with
      | some d =>
        if !isBlank d then some (gap, c)
        else if !gap.broken then
          takeGap? limit fuel { gap with blanks := gap.blanks ++ [d] } (c.skip 1)
        else if d = '\t' ∧ c.column < limit then none
        else takeGap? limit fuel gap (c.skip 1)
      | none => some (gap, c)

/-! ## Plain scalars -/

/-- A character that cannot stand behind a colon within a flow collection. -/
def isFlowMark (c : Char) : Bool :=
  c = ',' || c = '?' || c = '[' || c = ']' || c = '\x7b' || c = '\x7d'

/-- A character that ends a plain scalar within a flow collection. -/
def endsFlowPlain (c : Char) : Bool :=
  c = ',' || c = '[' || c = ']' || c = '\x7b' || c = '\x7d'

/-- Take a word of a plain scalar; it ends before a colon with a space behind it. -/
def takePlainWord? (inFlow : Bool) : Nat → Cursor → Option (List Char × Cursor)
  | 0, _ => none
  | fuel + 1, c =>
    match c.ahead? 0 with
    | none => some ([], c)
    | some d =>
      if isBlank d || isBreak d then some ([], c)
      else if inFlow && d = ':' && (c.ahead? 1).any isFlowMark then none
      else if (d = ':' && c.spaceAhead 1) || (inFlow && endsFlowPlain d) then some ([], c)
      else do
        let (word, c) ← takePlainWord? inFlow fuel (c.skip 1)
        some (d :: word, c)

/-- What was read of a plain scalar, where it ends, and whether it ends behind a line break. -/
structure Plain where
  text : List Char
  stop : Cursor
  broken : Bool

/-- Take the rest of a plain scalar whose words stand right of `indent`; `gap` goes before the next
    word, if there is one. -/
def takePlain? (inFlow : Bool) (indent : Nat) : Nat → Gap → Cursor → Option Plain
  | 0, _, _ => none
  | fuel + 1, gap, c =>
    if c.atDocumentMark || c.ahead? 0 = some '#' then some ⟨[], c, gap.broken⟩
    else do
      let (word, after) ← takePlainWord? inFlow (c.rest.length + 1) c
      let lead := if word = [] then [] else gap.text ++ word
      let gap := if word = [] then gap else {}
      if !after.rest.isEmpty && after.spaceAhead 0 then
        let (gap, next) ← takeGap? indent (after.rest.length + 1) gap after
        if !inFlow && next.column < indent then some ⟨lead, next, gap.broken⟩
        else
          let plain ← takePlain? inFlow indent fuel gap next
          some { plain with text := lead ++ plain.text }
      else some ⟨lead, after, gap.broken⟩

/-! ## Quoted scalars -/

/-- A number of so many hexadecimal digits. -/
def takeHex? : Nat → Nat → List Char → Option Nat
  | 0, n, _ => some n
  | digits + 1, n, c :: rest => do
    let d ← Json.hexValue? c
    takeHex? digits (n * 16 + d) rest
  | _ + 1, _, [] => none

/-- The character of a code point, if it is one. -/
def charOf? (n : Nat) : Option Char := if n.isValidChar then some (Char.ofNat n) else none

/-- What the character behind a backslash stands for, and how many characters are read for it. -/
def escape? (c : Char) (rest : List Char) : Option (Char × Nat) :=
  let coded (digits : Nat) := do
    let d ← charOf? (← takeHex? digits 0 rest)
    some (d, digits + 1)
  match c with
  | '0' => some ('\x00', 1)
  | 'a' => some ('\x07', 1)
  | 'b' => some ('\x08', 1)
  | 't' | '\t' => some ('\t', 1)
  | 'n' => some ('\n', 1)
  | 'v' => some ('\x0b', 1)
  | 'f' => some ('\x0c', 1)
  | 'r' => some ('\r', 1)
  | 'e' => some ('\x1b', 1)
  | ' ' => some (' ', 1)
  | '"' => some ('"', 1)
  | '/' => some ('/', 1)
  | '\\' => some ('\\', 1)
  | 'N' => some ('\u0085', 1)
  | '_' => some ('\u00a0', 1)
  | 'L' => some ('\u2028', 1)
  | 'P' => some ('\u2029', 1)
  | 'x' => coded 2
  | 'u' => coded 4
  | 'U' => coded 8
  | _ => none

/-- Take a word of a quoted scalar, up to a space or the closing quote. An escaped line break ends
    it, too, and starts a gap. -/
def takeQuotedWord? (single : Bool) : Nat → Cursor → Option (List Char × Gap × Cursor)
  | 0, _ => none
  | fuel + 1, c => do
    let continueWith (d : Char) (n : Nat) : Option (List Char × Gap × Cursor) := do
      let (word, gap, c) ← takeQuotedWord? single fuel (c.skip n)
      some (d :: word, gap, c)
    match c.rest with
    | [] => some ([], {}, c)
    | d :: rest =>
      if isBlank d || isBreak d then some ([], {}, c)
      else if single then
        if d = '\'' then
          if rest.head? = some '\'' then continueWith '\'' 2 else some ([], {}, c)
        else continueWith d 1
      else if d = '"' then some ([], {}, c)
      else if d = '\\' then
        match (c.skip 1).takeBreak?, rest with
        | some (_, next), _ => some ([], { broken := true }, next)
        | none, e :: more => do
          let (f, n) ← escape? e more
          continueWith f (n + 1)
        | none, [] => none
      else continueWith d 1

/-- Take the rest of a quoted scalar with its closing quote. -/
def takeQuoted? (single : Bool) : Nat → Cursor → Option (List Char × Cursor)
  | 0, _ => none
  | fuel + 1, c =>
    if c.atDocumentMark || c.rest.isEmpty then none
    else do
      let (word, gap, c) ← takeQuotedWord? single (c.rest.length + 1) c
      if c.ahead? 0 = some (if single then '\'' else '"') then some (word, c.skip 1)
      else
        let (gap, c) ← takeGap? 0 (c.rest.length + 1) gap c
        let (rest, c) ← takeQuoted? single fuel c
        some (word ++ gap.text ++ rest, c)

/-! ## Block scalars -/

/-- What becomes of the line breaks at the end of a block. -/
inductive Chomping where
  | strip
  | clip
  | keep
  deriving Repr, DecidableEq

/-- Take the chomping and the indentation off the head of a block, in either order. -/
def takeBlockHead? (c : Cursor) : Option (Chomping × Option Nat × Cursor) :=
  let chomping (c : Cursor) : Chomping × Cursor := match c.ahead? 0 with
    | some '+' => (.keep, c.skip 1)
    | some '-' => (.strip, c.skip 1)
    | _ => (.clip, c)
  let indentation (c : Cursor) : Option (Option Nat × Cursor) := match c.ahead? 0 with
    | some d =>
      if d = '0' then none
      else if Number.isDigit d then some (some (d.toNat - 48), c.skip 1)
      else some (none, c)
    | none => some (none, c)
  let (first, after) := chomping c
  match first with
  | .clip => do
    let (indent, c) ← indentation c
    match indent with
    | some _ =>
      let (second, c) := chomping c
      some (second, indent, c)
    | none => some (.clip, none, c)
  | first => (indentation after).map fun (indent, c) => (first, indent, c)

/-- Take empty lines and the indentation of the line behind them: the breaks, the widest
    indentation, and where that ends. Without a known indentation all blanks are taken. -/
def takeBlockBreaks? (indent : Option Nat) : Nat → Nat → Cursor →
    Option (List Char × Nat × Cursor)
  | 0, _, _ => none
  | fuel + 1, widest, c =>
    let spaces := (c.rest.takeWhile (· = ' ')).length
    let c := c.skip (match indent with
      | some n => min spaces (n - c.column)
      | none => spaces)
    let widest := max widest c.column
    let isLeft := match indent with
      | some n => c.column < n
      | none => true
    if isLeft && c.ahead? 0 = some '\t' then none
    else match c.takeBreak? with
      | some (d, next) => do
        let (breaks, widest, c) ← takeBlockBreaks? indent fuel widest next
        some (d :: breaks, widest, c)
      | none => some ([], widest, c)

/-- Take the lines of a block of a known indentation. `breaks` stand before the next line: the break
    at the end of the line above and those of empty lines; `blankAbove` says whether the line above
    starts with a blank. -/
def takeBlockLines? (literal : Bool) (indent : Nat) : Nat → (first : Option Char) →
    (breaks : List Char) → (blankAbove : Bool) → Cursor →
    Option (List Char × Option Char × List Char × Cursor)
  | 0, _, _, _, _ => none
  | fuel + 1, first, breaks, blankAbove, c =>
    if c.column = indent && !c.rest.isEmpty then do
      let blankHere := (c.ahead? 0).any isBlank
      let lead :=
        if !literal && first = some '\n' && !blankAbove && !blankHere then
          if breaks = [] then [' '] else breaks
        else first.toList ++ breaks
      let line := c.rest.takeWhile fun d => !isBreak d
      let c := c.skip line.length
      let (first, c) := match c.takeBreak? with
        | some (d, next) => (some d, next)
        | none => (none, c)
      let (breaks, _, c) ← takeBlockBreaks? (some indent) (c.rest.length + 1) 0 c
      let (text, first, breaks, c) ← takeBlockLines? literal indent fuel first breaks blankHere c
      some (lead ++ line ++ text, first, breaks, c)
    else some ([], first, breaks, c)

/-- Take a block whose mark is gone, within a collection at column `parent`, if there is one. -/
def takeBlock? (literal : Bool) (parent : Option Nat) (c : Cursor) :
    Option (List Char × Cursor) := do
  let (chomping, increment, c) ← takeBlockHead? c
  let c := c.skipWhile isBlank
  let c := if c.ahead? 0 = some '#' then c.skipWhile fun d => !isBreak d else c
  let c ← match c.takeBreak? with
    | some (_, next) => some next
    | none => if c.rest.isEmpty then some c else none
  let known := increment.map fun n => parent.getD 0 + n
  let (breaks, widest, c) ← takeBlockBreaks? known (c.rest.length + 1) 0 c
  let least := match parent with
    | some p => p + 1
    | none => 1
  let indent := known.getD (max widest least)
  let (text, first, breaks, c) ←
    takeBlockLines? literal indent (c.rest.length + 1) none breaks false c
  let tail := match chomping with
    | .strip => []
    | .clip => first.toList
    | .keep => first.toList ++ breaks
  some (text ++ tail, c)

end Exchange.Yaml
