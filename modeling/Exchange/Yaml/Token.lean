import Exchange.Yaml.Scalar

/-! # Tokens of YAML

The text of a document cut into marks and scalars. Blocks are given by indentation, so where the
text starts or ends a block without a mark there is a token all the same. Whether a scalar is a key
shows only at the colon behind it: what may be a key is remembered, and the token for it is put in
when the colon comes.
-/

namespace Exchange.Yaml

/-- A token. -/
inductive Token where
  /-- A handle for tags stands for a URI prefix. -/
  | tagDirective (handle uri : String)
  | versionDirective
  | documentStart
  | documentEnd
  | sequenceBlock
  | mappingBlock
  | blockEnd
  | flowSequenceStart
  | flowSequenceEnd
  | flowMappingStart
  | flowMappingEnd
  /-- A hyphen before an item. -/
  | item
  /-- A comma. -/
  | comma
  | key
  | value
  | alias (name : String)
  | anchor (name : String)
  | tag (handle rest : String)
  | scalar (text : String) (plain : Bool)
  deriving Repr, DecidableEq

/-- Something that is a key if a colon follows it. -/
structure PossibleKey where
  /-- The number of tokens in front of it. -/
  tokenCount : Nat
  place : Place
  /-- Nothing else than a key can stand here. -/
  required : Bool
  deriving Repr, DecidableEq

/-- How far the text has been cut. -/
structure Scan where
  cursor : Cursor
  /-- The tokens so far, the last one first. -/
  tokens : List Token := []
  /-- The columns of the blocks that are open, the innermost first. -/
  blocks : List Nat := []
  /-- For each flow collection that is open, the innermost first, and for what is around all of
      them, what may be a key. -/
  keys : List (Option PossibleKey) := [none]
  /-- May a key start here? -/
  keyAllowed : Bool := true

namespace Scan

/-- Is a flow collection open? -/
def inFlow (s : Scan) : Bool := 1 < s.keys.length

/-- The column where the next token stands. -/
def column (s : Scan) : Nat := s.cursor.column

/-- Put a token behind the others. -/
def emit (s : Scan) (t : Token) : Scan := { s with tokens := t :: s.tokens }

/-- Put a token behind the first `n`. -/
def emitAt (s : Scan) (n : Nat) (t : Token) : Scan :=
  let later := s.tokens.length - n
  { s with tokens := s.tokens.take later ++ t :: s.tokens.drop later }

/-- Go on at a cursor. -/
def moveTo (s : Scan) (c : Cursor) : Scan := { s with cursor := c }

/-- Set whether a key may start. -/
def allowKey (s : Scan) (allowed : Bool) : Scan := { s with keyAllowed := allowed }

/-- Replace what may be a key in the innermost collection. -/
def setKey (s : Scan) (key : Option PossibleKey) : Scan :=
  { s with keys := key :: s.keys.drop 1 }

/-- What may be a key in the innermost collection. -/
def key? (s : Scan) : Option PossibleKey := s.keys.head?.join

/-- Give up what may be a key; what has to be one cannot be given up. -/
def dropKey? (s : Scan) : Option Scan :=
  if s.key?.any (·.required) then none else some (s.setKey none)

/-- Remember that what comes next may be a key. -/
def saveKey? (s : Scan) : Option Scan :=
  if !s.keyAllowed then some s
  else do
    let s ← s.dropKey?
    let required := !s.inFlow && s.blocks.head? = some s.column
    some (s.setKey (some ⟨s.tokens.length, s.cursor.place, required⟩))

/-- A key stands on one line and has at most 1024 characters. -/
def isStale (s : Scan) (k : PossibleKey) : Bool :=
  k.place.line < s.cursor.place.line || k.place.index + 1024 < s.cursor.place.index

/-- Give up whatever can no longer be a key. -/
def dropStaleKeys? (s : Scan) : Option Scan := do
  let keys ← s.keys.mapM fun key => match key with
    | some k => if s.isStale k then if k.required then none else some none else some (some k)
    | none => some none
  some { s with keys := keys }

/-- Open a block at a column right of the innermost one, with its token behind the first `n`. -/
def openBlock (s : Scan) (column n : Nat) (t : Token) : Scan :=
  if s.inFlow || s.blocks.head?.any (column ≤ ·) then s
  else { s with blocks := column :: s.blocks }.emitAt n t

/-- Close the blocks that satisfy a test, from the innermost on. -/
def closeBlocks (s : Scan) (isOver : Nat → Bool) : Scan :=
  if s.inFlow then s
  else
    let closing := s.blocks.takeWhile isOver
    { s with
      blocks := s.blocks.drop closing.length
      tokens := List.replicate closing.length .blockEnd ++ s.tokens }

/-- Skip blanks, breaks and comments, and a byte order mark at the start of a line. Where a key may
    start, tabs are no blanks. -/
def skipSpace : Nat → Scan → Scan
  | 0, s => s
  | fuel + 1, s =>
    let c := if s.column = 0 ∧ s.cursor.ahead? 0 = some '\ufeff' then s.cursor.skip 1 else s.cursor
    let c := c.skipWhile fun d => d = ' ' || ((s.inFlow || !s.keyAllowed) && d = '\t')
    let c := if c.ahead? 0 = some '#' then c.skipWhile fun d => !isBreak d else c
    match c.takeBreak? with
    | some (_, next) => skipSpace fuel ((s.moveTo next).allowKey (!s.inFlow || s.keyAllowed))
    | none => s.moveTo c

/-- A character of the name of an anchor or a handle. -/
def isNameChar (c : Char) : Bool := c.isAlphanum || c = '_' || c = '-'

/-- A character that may follow the name of an anchor. -/
def endsName (c : Char) : Bool := "?:,]\x7d%@\u0060".toList.contains c

/-- Read an anchor or an alias, whose mark is here. -/
def readAnchor? (make : String → Token) (s : Scan) : Option Scan := do
  let s ← s.saveKey?
  let name := (s.cursor.rest.drop 1).takeWhile isNameChar
  let c := s.cursor.skip (name.length + 1)
  if name = [] || !(c.spaceAhead 0 || (c.ahead? 0).any endsName) then none
  else some (((s.moveTo c).emit (make (String.ofList name))).allowKey false)

/-- A character of a tag; `verbatim` within angle brackets. -/
def isTagChar (verbatim : Bool) (c : Char) : Bool :=
  isNameChar c || ";/?:@&=+$.!~*'()%".toList.contains c ||
    (verbatim && (c = ',' || c = '[' || c = ']'))

/-- Read the octet that a percent sign and two digits stand for. -/
def takeOctet? : List Char → Option (Nat × List Char)
  | '%' :: a :: b :: rest => do
    let high ← Json.hexValue? a
    let low ← Json.hexValue? b
    some (high * 16 + low, rest)
  | _ => none

/-- Read further octets of a character, of which `n` is known. -/
def takeOctets? : (count n : Nat) → List Char → Option (Char × List Char)
  | 0, n, cs => some (Char.ofNat n, cs)
  | count + 1, n, cs => do
    let (octet, rest) ← takeOctet? cs
    if octet / 64 = 2 then takeOctets? count (n * 64 + octet % 64) rest else none

/-- Read a character that is written by its octets. -/
def takeEscaped? (cs : List Char) : Option (Char × List Char) := do
  let (octet, rest) ← takeOctet? cs
  if octet / 128 = 0 then takeOctets? 0 octet rest
  else if octet / 32 = 6 then takeOctets? 1 (octet % 32) rest
  else if octet / 16 = 14 then takeOctets? 2 (octet % 16) rest
  else if octet / 8 = 30 then takeOctets? 3 (octet % 8) rest
  else none

/-- The characters of a part of a tag, in which a percent sign starts an octet. -/
def unescaped? : Nat → List Char → Option (List Char)
  | 0, _ => none
  | _ + 1, [] => some []
  | fuel + 1, c :: rest =>
    if c = '%' then do
      let (d, rest) ← takeEscaped? (c :: rest)
      (unescaped? fuel rest).map (d :: ·)
    else (unescaped? fuel rest).map (c :: ·)

/-- The text of a part of a tag. -/
def tagText? (cs : List Char) : Option String := (unescaped? (cs.length + 1) cs).map String.ofList

/-- Take a tag off the front: its handle, the rest of it, and its length. A lone exclamation mark is
    no handle. -/
def takeTag? (cs : List Char) : Option (String × String × Nat) :=
  match cs with
  | '!' :: '<' :: rest =>
    let uri := rest.takeWhile (isTagChar true)
    if uri ≠ [] ∧ rest[uri.length]? = some '>' then
      (tagText? uri).map fun text => ("", text, uri.length + 3)
    else none
  | '!' :: rest =>
    let name := rest.takeWhile isNameChar
    if rest[name.length]? = some '!' then
      let suffix := (rest.drop (name.length + 1)).takeWhile (isTagChar false)
      if suffix = [] then none
      else (tagText? suffix).map fun text =>
        ("!" ++ String.ofList name ++ "!", text, name.length + suffix.length + 2)
    else
      let suffix := rest.takeWhile (isTagChar false)
      if suffix = [] then some ("", "!", 1)
      else (tagText? suffix).map fun text => ("!", text, suffix.length + 1)
  | _ => none

/-- Read a tag, whose mark is here. -/
def readTag? (s : Scan) : Option Scan := do
  let s ← s.saveKey?
  let (handle, rest, length) ← takeTag? s.cursor.rest
  let c := s.cursor.skip length
  if c.spaceAhead 0 || (s.inFlow && c.ahead? 0 = some ',') then
    some (((s.moveTo c).emit (.tag handle rest)).allowKey false)
  else none

/-- The words of a line, without a comment. -/
def lineWords (cs : List Char) : List (List Char) :=
  let line := cs.takeWhile fun c => !isBreak c
  let words := line.foldr (fun c words => match words with
    | word :: rest => if isBlank c then [] :: word :: rest else (c :: word) :: rest
    | [] => [[c]]) [[]]
  (words.filter (· ≠ [])).takeWhile fun word => word.head? ≠ some '#'

/-- Is the text a version that is known, which are 1.1 and 1.2? Its numbers have at most nine
    digits. -/
def isKnownVersion (cs : List Char) : Bool :=
  let isNumber (digits : List Char) : Bool := digits ≠ [] && digits.length ≤ 9
  let major := cs.takeWhile Number.isDigit
  match cs.drop major.length with
  | '.' :: minor =>
    isNumber major && Number.digitsValue major == 1 && isNumber minor &&
      minor.all Number.isDigit && [1, 2].contains (Number.digitsValue minor)
  | _ => false

/-- The token of a directive: one tells the version, and one has a handle for tags and a URI
    prefix. -/
def directive? : List (List Char) → Option Token
  | [['%', 'Y', 'A', 'M', 'L'], version] =>
    if isKnownVersion version then some .versionDirective else none
  | [['%', 'T', 'A', 'G'], handle, uri] =>
    let isHandle := match handle with
      | ['!'] => true
      | '!' :: name => name.getLast? = some '!' && name.dropLast.all isNameChar
      | _ => false
    if isHandle && uri.all (isTagChar true) then
      (tagText? uri).map (.tagDirective (String.ofList handle))
    else none
  | _ => none

/-- Read a directive, whose mark is here. -/
def readDirective? (s : Scan) : Option Scan := do
  let s ← (s.closeBlocks fun _ => true).dropKey?
  let t ← directive? (lineWords s.cursor.rest)
  some (((s.moveTo (s.cursor.skipWhile fun c => !isBreak c)).emit t).allowKey false)

/-- Read the start or end of a document. -/
def readDocumentMark? (t : Token) (s : Scan) : Option Scan := do
  let s ← (s.closeBlocks fun _ => true).dropKey?
  some (((s.moveTo (s.cursor.skip 3)).emit t).allowKey false)

/-- Read the start of a flow collection. -/
def readFlowStart? (t : Token) (s : Scan) : Option Scan := do
  let s ← s.saveKey?
  some ((({ s with keys := none :: s.keys }.moveTo (s.cursor.skip 1)).emit t).allowKey true)

/-- Read the end of a flow collection. -/
def readFlowEnd? (t : Token) (s : Scan) : Option Scan := do
  let s ← s.dropKey?
  let keys := if s.inFlow then s.keys.drop 1 else s.keys
  some ((({ s with keys := keys }.moveTo (s.cursor.skip 1)).emit t).allowKey false)

/-- Read a comma. -/
def readComma? (s : Scan) : Option Scan := do
  let s ← s.dropKey?
  some (((s.moveTo (s.cursor.skip 1)).emit .comma).allowKey true)

/-- Read the hyphen of an item; it opens a block where it stands right of the innermost one. -/
def readItem? (s : Scan) : Option Scan := do
  if !s.inFlow && !s.keyAllowed then none
  else
    let s ← (s.openBlock s.column s.tokens.length .sequenceBlock).dropKey?
    some (((s.moveTo (s.cursor.skip 1)).emit .item).allowKey true)

/-- Read the question mark of a key. -/
def readKey? (s : Scan) : Option Scan := do
  if !s.inFlow && !s.keyAllowed then none
  else
    let s ← (s.openBlock s.column s.tokens.length .mappingBlock).dropKey?
    some (((s.moveTo (s.cursor.skip 1)).emit .key).allowKey (!s.inFlow))

/-- Read the colon of a value. What may be a key is one now. -/
def readValue? (s : Scan) : Option Scan := do
  let s ← match s.key? with
    | some k =>
      let s := s.emitAt k.tokenCount .key
      some (((s.openBlock k.place.column k.tokenCount .mappingBlock).setKey none).allowKey false)
    | none =>
      if s.inFlow then some (s.allowKey false)
      else if !s.keyAllowed then none
      else some ((s.openBlock s.column s.tokens.length .mappingBlock).allowKey true)
  some ((s.moveTo (s.cursor.skip 1)).emit .value)

/-- Read a block scalar, whose mark is here. -/
def readBlock? (literal : Bool) (s : Scan) : Option Scan := do
  let s ← s.dropKey?
  let (text, c) ← takeBlock? literal s.blocks.head? (s.cursor.skip 1)
  some (((s.moveTo c).emit (.scalar (String.ofList text) false)).allowKey true)

/-- Read a quoted scalar, whose opening quote is here. -/
def readQuoted? (single : Bool) (s : Scan) : Option Scan := do
  let s ← s.saveKey?
  let c := s.cursor.skip 1
  let (text, c) ← takeQuoted? single (c.rest.length + 1) c
  some (((s.moveTo c).emit (.scalar (String.ofList text) false)).allowKey false)

/-- Read a plain scalar. -/
def readPlain? (s : Scan) : Option Scan := do
  let s ← s.saveKey?
  let indent := match s.blocks.head? with
    | some column => column + 1
    | none => 0
  let plain ← takePlain? s.inFlow indent (s.cursor.rest.length + 1) {} s.cursor
  some (((s.moveTo plain.stop).emit (.scalar (String.ofList plain.text) true)).allowKey
    plain.broken)

/-- A character that a plain scalar cannot start with, whatever follows. -/
def isMark (c : Char) : Bool := "-?:,[]\x7b\x7d#&*!|>'\"%@\u0060".toList.contains c

/-- Can a plain scalar start here? -/
def plainStarts (s : Scan) (c : Char) : Bool :=
  (!isMark c && !isBlank c) || (c = '-' && !(s.cursor.ahead? 1).any isBlank) ||
    (!s.inFlow && (c = '?' || c = ':') && !s.cursor.spaceAhead 1)

/-- Read the token that starts with a character. -/
def readToken? (c : Char) (s : Scan) : Option Scan :=
  let space := s.cursor.spaceAhead 1
  if s.column = 0 ∧ c = '%' then s.readDirective?
  else if s.cursor.atMark '-' then s.readDocumentMark? .documentStart
  else if s.cursor.atMark '.' then s.readDocumentMark? .documentEnd
  else if c = '[' then s.readFlowStart? .flowSequenceStart
  else if c = '\x7b' then s.readFlowStart? .flowMappingStart
  else if c = ']' then s.readFlowEnd? .flowSequenceEnd
  else if c = '\x7d' then s.readFlowEnd? .flowMappingEnd
  else if c = ',' then s.readComma?
  else if c = '-' ∧ space then s.readItem?
  else if c = '?' ∧ (s.inFlow ∨ space) then s.readKey?
  else if c = ':' ∧ (s.inFlow ∨ space) then s.readValue?
  else if c = '*' then s.readAnchor? .alias
  else if c = '&' then s.readAnchor? .anchor
  else if c = '!' then s.readTag?
  else if c = '|' ∧ !s.inFlow then s.readBlock? true
  else if c = '>' ∧ !s.inFlow then s.readBlock? false
  else if c = '\'' then s.readQuoted? true
  else if c = '"' then s.readQuoted? false
  else if s.plainStarts c then s.readPlain?
  else none

/-- Cut the text up to its end. -/
def run? : Nat → Scan → Option Scan
  | 0, _ => none
  | fuel + 1, s => do
    let s ← (s.skipSpace (s.cursor.rest.length + 1)).dropStaleKeys?
    match s.cursor.ahead? 0 with
    | none => (s.closeBlocks fun _ => true).dropKey?
    | some c => do
      let s ← (s.closeBlocks fun column => s.column < column).readToken? c
      run? fuel s

end Scan

/-- A character that may stand in a document. -/
def isPrintable (c : Char) : Bool :=
  let n := c.toNat
  n = 9 || n = 10 || n = 13 || (0x20 ≤ n && n ≤ 0x7E) || n = 0x85 ||
    (0xA0 ≤ n && n ≤ 0xD7FF) || (0xE000 ≤ n && n ≤ 0xFFFD) || 0x10000 ≤ n

/-- Cut a text into tokens. -/
def tokens? (text : String) : Option (List Token) := do
  let cs := text.toList
  if !cs.all isPrintable then none
  else
    let s ← Scan.run? (cs.length + 1) { cursor := .start cs }
    some s.tokens.reverse

end Exchange.Yaml
