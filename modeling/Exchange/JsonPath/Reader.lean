import Exchange.Json.Reader
import Exchange.JsonPath.Path

/-! # Reading JSON paths

A path starts with `$` and goes on with segments. There may be blanks in front of a segment, but
not in front of the two dots of a descendant segment. A filter that starts with a path is a
comparison if an operator follows the path, and otherwise asks whether the path selects anything.

The reader stands for that of the package `serde_json_path`. Of it is assumed that it takes just
these texts. They are those of RFC 9535 but for the escapes in quotes and the blanks that the comments
here name.
-/

namespace Exchange.JsonPath

open Json (skipBlanks)

/-- The greatest magnitude of an index. -/
def maxIndex : Nat := Nat.pow 2 53 - 1

/-- A character that a bare name may start with. -/
def isNameStart (c : Char) : Bool := c.isAlpha || c = '_' || 0x80 ≤ c.toNat

/-- A character that a bare name may go on with. -/
def isNameChar (c : Char) : Bool := isNameStart c || Number.isDigit c

/-- Take a bare name off the front. -/
def takeName? (cs : List Char) : Option (String × List Char) :=
  match cs with
  | c :: _ =>
    if isNameStart c then some (String.ofList (cs.takeWhile isNameChar), cs.dropWhile isNameChar)
    else none
  | [] => none

/-- Take an integer off the front: no sign but a minus, no needless zeros, not too large. -/
def takeInt? (cs : List Char) : Option (Int × List Char) :=
  match cs with
  | '0' :: rest => some (0, rest)
  | _ =>
    let (negative, digits) := match cs with
      | '-' :: rest => (true, rest)
      | _ => (false, cs)
    let run := digits.takeWhile Number.isDigit
    let n := Number.digitsValue run
    if run = [] ∨ run.head? = some '0' ∨ maxIndex < n then none
    else some (if negative then -(n : Int) else n, digits.dropWhile Number.isDigit)

/-- Take an integer off the front if there is one. -/
def takeOptionalInt (cs : List Char) : Option Int × List Char :=
  match takeInt? cs with
  | some (i, rest) => (some i, rest)
  | none => (none, cs)

/-- Is the first half of a surrogate pair, if these digits are one, written in capitals? -/
def pairInCapitals : List Char → Bool
  | d :: e :: _ => ¬(d = 'd' ∨ (d = 'D' ∧ (e = 'a' ∨ e = 'b')))
  | _ => true

/-- Take what follows a backslash within quotes. Of the quotes only the enclosing one is escaped,
    and the digits that make an escape the first half of a surrogate pair are in capitals. -/
def takeEscape? (quote : Char) : List Char → Option (Char × List Char)
  | [] => none
  | c :: rest =>
    if c = quote then some (quote, rest)
    else if c = '"' then none
    else do
      let (d, after) ← Json.takeEscape? (c :: rest)
      if c = 'u' ∧ 0x10000 ≤ d.toNat ∧ !pairInCapitals rest then none else some (d, after)

/-- Take the rest of a quoted text up to its closing quote. -/
def takeQuoted? (quote : Char) : Nat → List Char → Option (List Char × List Char)
  | 0, _ => none
  | _ + 1, [] => none
  | fuel + 1, c :: rest =>
    if c = quote then some ([], rest)
    else if c = '\\' then do
      let (d, rest) ← takeEscape? quote rest
      let (ds, rest) ← takeQuoted? quote fuel rest
      some (d :: ds, rest)
    else if c.toNat < 0x20 then none
    else do
      let (ds, rest) ← takeQuoted? quote fuel rest
      some (c :: ds, rest)

/-- Read a quoted text whose opening quote is gone. -/
def readQuoted? (quote : Char) (cs : List Char) : Option (String × List Char) := do
  let (s, rest) ← takeQuoted? quote (cs.length + 1) cs
  some (String.ofList s, rest)

/-- Take a comparison operator off the front. -/
def takeComparison? : List Char → Option (Comparison × List Char)
  | '=' :: '=' :: rest => some (.equal, rest)
  | '!' :: '=' :: rest => some (.notEqual, rest)
  | '<' :: '=' :: rest => some (.lessOrEqual, rest)
  | '>' :: '=' :: rest => some (.greaterOrEqual, rest)
  | '<' :: rest => some (.less, rest)
  | '>' :: rest => some (.greater, rest)
  | _ => none

/-- Take a character off the front, behind blanks. -/
def expect? (c : Char) (cs : List Char) : Option (List Char) :=
  match skipBlanks cs with
  | d :: rest => if d = c then some rest else none
  | [] => none

/-- The origin that a character stands for. -/
def originOf? (c : Char) : Option Origin :=
  if c = '$' then some .root else if c = '@' then some .current else none

/-- Read an index or a slice. -/
def readIndex? (cs : List Char) : Option (Selector × List Char) :=
  let (start, rest) := takeOptionalInt cs
  match skipBlanks rest, start with
  | ':' :: more, _ =>
    let (stop, more) := takeOptionalInt (skipBlanks more)
    match skipBlanks more with
    | ':' :: more =>
      let (step, more) := takeOptionalInt (skipBlanks more)
      some (.slice start stop step, more)
    | more => some (.slice start stop none, more)
  | _, some i => some (.index i, rest)
  | _, none => none

/-- Read what follows a dot: an asterisk or a bare name. -/
def readDotted? : List Char → Option (List Selector × List Char)
  | '*' :: rest => some ([.wildcard], rest)
  | cs => (takeName? cs).map fun (n, rest) => ([.name n], rest)

/-- Read a word that stands for a value. -/
def wordValue? : String → Option Json
  | "true" => some (.bool true)
  | "false" => some (.bool false)
  | "null" => some .null
  | _ => none

mutual
/-- Read the segments of a path; they end where neither a dot nor a bracket follows. -/
def readSegments? : Nat → List Char → Option (Path × List Char)
  | 0, _ => none
  | fuel + 1, cs =>
    match cs, skipBlanks cs with
    | '.' :: '.' :: rest, _ => do
      let (selectors, rest) ← match rest with
        | '[' :: rest => readSelectors? fuel rest
        | rest => readDotted? rest
      let (segments, rest) ← readSegments? fuel rest
      some (.descendant selectors :: segments, rest)
    | _, '.' :: rest => do
      let (selectors, rest) ← readDotted? rest
      let (segments, rest) ← readSegments? fuel rest
      some (.child selectors :: segments, rest)
    | _, '[' :: rest => do
      let (selectors, rest) ← readSelectors? fuel rest
      let (segments, rest) ← readSegments? fuel rest
      some (.child selectors :: segments, rest)
    | _, _ => some ([], cs)

/-- Read selectors with commas between them up to the closing bracket. -/
def readSelectors? : Nat → List Char → Option (List Selector × List Char)
  | 0, _ => none
  | fuel + 1, cs => do
    let (selector, rest) ← readSelector? fuel (skipBlanks cs)
    match skipBlanks rest with
    | ']' :: rest => some ([selector], rest)
    | ',' :: rest =>
      let (selectors, rest) ← readSelectors? fuel rest
      some (selector :: selectors, rest)
    | _ => none

/-- Read a selector. -/
def readSelector? : Nat → List Char → Option (Selector × List Char)
  | 0, _ => none
  | fuel + 1, cs =>
    match cs with
    | '*' :: rest => some (.wildcard, rest)
    | '?' :: rest => (readOr? fuel (skipBlanks rest)).map fun (c, rest) => (.filter c, rest)
    | '\'' :: rest => (readQuoted? '\'' rest).map fun (n, rest) => (.name n, rest)
    | '"' :: rest => (readQuoted? '"' rest).map fun (n, rest) => (.name n, rest)
    | cs => readIndex? cs

/-- Read alternatives. -/
def readOr? : Nat → List Char → Option (Condition × List Char)
  | 0, _ => none
  | fuel + 1, cs => do
    let (a, rest) ← readAnd? fuel cs
    match skipBlanks rest with
    | '|' :: '|' :: rest =>
      let (b, rest) ← readOr? fuel (skipBlanks rest)
      some (.or a b, rest)
    | _ => some (a, rest)

/-- Read conditions that hold together. -/
def readAnd? : Nat → List Char → Option (Condition × List Char)
  | 0, _ => none
  | fuel + 1, cs => do
    let (a, rest) ← readCondition? fuel cs
    match skipBlanks rest with
    | '&' :: '&' :: rest =>
      let (b, rest) ← readAnd? fuel (skipBlanks rest)
      some (.and a b, rest)
    | _ => some (a, rest)

/-- Read a condition; what is negated is a test or stands in parentheses. -/
def readCondition? : Nat → List Char → Option (Condition × List Char)
  | 0, _ => none
  | fuel + 1, cs =>
    match cs with
    | '(' :: rest => readParenthesized? fuel rest
    | '!' :: rest => do
      let (a, rest) ← match skipBlanks rest with
        | '(' :: rest => readParenthesized? fuel rest
        | rest => readTest? fuel rest
      some (.not a, rest)
    | cs => do
      match readOperand? fuel cs with
      | some (left, rest) =>
        match takeComparison? (skipBlanks rest) with
        | some (op, rest) =>
          let (right, rest) ← readOperand? fuel (skipBlanks rest)
          some (.compare op left right, rest)
        | none => readTest? fuel cs
      | none => readTest? fuel cs

/-- Read a condition up to the closing parenthesis. -/
def readParenthesized? : Nat → List Char → Option (Condition × List Char)
  | 0, _ => none
  | fuel + 1, cs => do
    let (a, rest) ← readOr? fuel (skipBlanks cs)
    let rest ← expect? ')' rest
    some (a, rest)

/-- Read a test: a path, or a text and a pattern. -/
def readTest? : Nat → List Char → Option (Condition × List Char)
  | 0, _ => none
  | fuel + 1, cs => do
    match takeName? cs with
    | some (function, '(' :: rest) =>
      let whole ← match function with
        | "match" => some true
        | "search" => some false
        | _ => none
      let (text, rest) ← readOperand? fuel (skipBlanks rest)
      let rest ← expect? ',' rest
      let (pattern, rest) ← readOperand? fuel (skipBlanks rest)
      let rest ← expect? ')' rest
      some (.matchesPattern whole text pattern, rest)
    | some _ => none
    | none =>
      let (origin, segments, rest) ← readQuery? fuel cs
      some (.selects origin segments, rest)

/-- Read a path with its origin. -/
def readQuery? : Nat → List Char → Option (Origin × Path × List Char)
  | 0, _ => none
  | _ + 1, [] => none
  | fuel + 1, c :: rest => do
    let origin ← originOf? c
    let (segments, rest) ← readSegments? fuel rest
    some (origin, segments, rest)

/-- Read a side of a comparison. -/
def readOperand? : Nat → List Char → Option (Operand × List Char)
  | 0, _ => none
  | fuel + 1, cs =>
    match takeName? cs with
    | some (function, '(' :: rest) =>
      match function with
      | "length" => do
        let (a, rest) ← readOperand? fuel (skipBlanks rest)
        let rest ← expect? ')' rest
        some (.length a, rest)
      | "count" => do
        let (origin, segments, rest) ← readQuery? fuel (skipBlanks rest)
        let rest ← expect? ')' rest
        some (.count origin segments, rest)
      | "value" => do
        let (origin, segments, rest) ← readQuery? fuel (skipBlanks rest)
        let rest ← expect? ')' rest
        some (.value origin segments, rest)
      | _ => none
    | some (word, rest) => (wordValue? word).map fun j => (.literal j, rest)
    | none => match cs with
      | '\'' :: rest => (readQuoted? '\'' rest).map fun (s, rest) => (.literal (.string s), rest)
      | '"' :: rest => (readQuoted? '"' rest).map fun (s, rest) => (.literal (.string s), rest)
      | '$' :: _ | '@' :: _ => do
        let (origin, segments, rest) ← readQuery? fuel cs
        let steps ← Path.steps? segments
        some (.single origin steps, rest)
      | cs => (JsonNumber.read? cs).map fun (n, rest) => (.literal (.number n), rest)
end

/-- Read a text as a path. -/
def read? (text : String) : Option Path :=
  match text.toList with
  | '$' :: rest => do
    let (path, rest) ← readSegments? (8 * rest.length + 8) rest
    if rest.isEmpty then some path else none
  | _ => none

end Exchange.JsonPath
