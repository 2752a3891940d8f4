import Exchange.Number.Numeral
import Exchange.Xml.Reader
import Exchange.XPath.Expr

/-! # Tokens of XPath

The text of an expression as tokens, with the abbreviations written out. Whether a star or a word
such as `and` is an operator or a name depends on the token before it.
-/

namespace Exchange.XPath

/-- A token. -/
inductive Token where
  | slash
  | openParen
  | closeParen
  | openBracket
  | closeBracket
  | comma
  | doubleColon
  | operator (op : BinaryOp)
  | literal (s : String)
  | number (x : Float)
  | variable (name : QName)
  /-- The name of a function, which stands before its arguments. -/
  | function (name : QName)
  | axis (axis : Axis)
  | nodeTest (test : NodeTest)
  | name (name : QName)

/-- Is a star or a word that could be an operator read as a name after this token? Behind a comma it
    is not, although only an operand can stand there. -/
def Token.precedesName : Token → Bool
  | slash | openParen | openBracket | operator _ | axis _ => true
  | _ => false

/-- Words and signs with the tokens they stand for. -/
abbrev Vocabulary (α : Type) := List (String × α)

/-- The first entry that the text starts with, and what follows. -/
def Vocabulary.take? {α : Type} (words : Vocabulary α) (cs : List Char) : Option (α × List Char) :=
  words.findSome? fun (word, a) => (Xml.takeWord? word cs).map (a, ·)

/-- Any node at or below the present one, the meaning of two slashes. -/
def anywhere : List Token := [.slash, .axis .descendantOrSelf, .nodeTest .node, .slash]

/-- Signs of two characters. -/
def longSigns : Vocabulary (List Token) := [
  ("<=", [.operator .lessOrEqual]), (">=", [.operator .greaterOrEqual]),
  ("!=", [.operator .notEqual]), ("::", [.doubleColon]), ("//", anywhere),
  ("..", [.axis .parent, .nodeTest .node])]

/-- Signs of one character. -/
def shortSigns : Vocabulary (List Token) := [
  ("/", [.slash]), ("(", [.openParen]), (")", [.closeParen]), ("[", [.openBracket]),
  ("]", [.closeBracket]), ("@", [.axis .attribute]), (",", [.comma]), ("+", [.operator .plus]),
  ("-", [.operator .minus]), ("|", [.operator .union]), ("=", [.operator .equal]),
  ("<", [.operator .less]), (">", [.operator .greater])]

/-- Operators that could be names. -/
def namedOperators : Vocabulary (List Token) := [
  ("and", [.operator .and]), ("or", [.operator .or]), ("mod", [.operator .modulo]),
  ("div", [.operator .divide]), ("*", [.operator .times])]

/-- The names of axes; a longer name stands before the one that it starts with. -/
def axes : Vocabulary Axis := [
  ("ancestor-or-self", .ancestorOrSelf), ("ancestor", .ancestor), ("attribute", .attribute),
  ("child", .child), ("descendant-or-self", .descendantOrSelf), ("descendant", .descendant),
  ("following-sibling", .followingSibling), ("following", .following),
  ("namespace", .namespace), ("parent", .parent), ("preceding-sibling", .precedingSibling),
  ("preceding", .preceding), ("self", .self)]

/-- Node tests that are written like calls without arguments. -/
def nodeTests : Vocabulary NodeTest := [
  ("comment()", .comment), ("text()", .text), ("node()", .node),
  ("processing-instruction()", .instruction none)]

/-- Read a literal in quotes of either kind. -/
def takeLiteral? : List Char → Option (String × List Char)
  | q :: rest =>
    if q = '"' ∨ q = '\'' then
      (Xml.takeUntil? [q] rest).map fun (s, rest) => (String.ofList s, rest)
    else none
  | [] => none

/-- Read a number: digits with a point behind or among them, or a point with digits behind it. -/
def takeNumber? (cs : List Char) : Option (Float × List Char) :=
  let whole := cs.takeWhile Number.isDigit
  let (fraction, rest) := match cs.drop whole.length with
    | '.' :: more => (more.takeWhile Number.isDigit, more.dropWhile Number.isDigit)
    | more => ([], more)
  if whole = [] ∧ fraction = [] then none
  else some (Number.Numeral.value ⟨false, whole, fraction, 0⟩, rest)

/-- Read a name with a prefix or without. -/
def takeQName? (cs : List Char) : Option (QName × List Char) :=
  (Xml.takeWrittenName? cs).map fun (n, rest) => (⟨n.label, n.localName⟩, rest)

/-- Read an axis with its two colons. -/
def takeAxis? (cs : List Char) : Option (List Token × List Char) := do
  let (axis, rest) ← axes.take? cs
  let rest ← Xml.takeWord? "::" rest
  some ([.axis axis], rest)

/-- Read a node test with its parentheses. -/
def takeNodeTest? (cs : List Char) : Option (List Token × List Char) :=
  match nodeTests.take? cs with
  | some (test, rest) => some ([.nodeTest test], rest)
  | none => do
    let rest ← Xml.takeWord? "processing-instruction(" cs
    let (target, rest) ← takeLiteral? rest
    match rest with
    | ')' :: rest => some ([.nodeTest (.instruction (some target))], rest)
    | _ => none

/-- Read the name of a function, which an opening parenthesis follows at once. -/
def takeFunction? (cs : List Char) : Option (List Token × List Char) := do
  let (name, rest) ← takeQName? cs
  match rest with
  | '(' :: _ => some ([.function name], rest)
  | _ => none

/-- Read a name test: a name, or a star alone or behind a prefix. -/
def takeNameTest? (cs : List Char) : Option (List Token × List Char) :=
  match cs with
  | '*' :: rest => some ([.name ⟨none, "*"⟩], rest)
  | _ => do
    let (name, rest) ← takeQName? cs
    match name.label, rest with
    | none, ':' :: '*' :: rest => some ([.name ⟨some name.localName, "*"⟩], rest)
    | _, _ => some ([.name name], rest)

/-- Read a reference to a variable. -/
def takeVariable? : List Char → Option (List Token × List Char)
  | '$' :: rest => (takeQName? rest).map fun (name, rest) => ([.variable name], rest)
  | _ => none

/-- Read what one token is written as; `operators` says that the operators which could be names are
    read as operators. -/
def takeTokens? (operators : Bool) (cs : List Char) : Option (List Token × List Char) :=
  longSigns.take? cs
    <|> (takeLiteral? cs).map (fun (s, rest) => ([.literal s], rest))
    <|> (takeNumber? cs).map (fun (x, rest) => ([.number x], rest))
    <|> shortSigns.take? cs
    <|> (Xml.takeWord? "." cs).map (fun rest => ([.axis .self, .nodeTest .node], rest))
    <|> (if operators then namedOperators.take? cs else none)
    <|> takeAxis? cs
    <|> takeNodeTest? cs
    <|> takeFunction? cs
    <|> takeNameTest? cs
    <|> takeVariable? cs

/-- Read tokens up to the end; blanks may stand around each. -/
def tokensFrom? : Nat → Bool → List Char → Option (List Token)
  | 0, _, _ => none
  | fuel + 1, operators, cs => do
    let (tokens, rest) ← takeTokens? operators (Xml.skipSpace cs)
    let operators := !(tokens.getLast?.any Token.precedesName)
    match Xml.skipSpace rest with
    | [] => some tokens
    | rest => do
      let more ← tokensFrom? fuel operators rest
      some (tokens ++ more)

/-- The tokens of a text. -/
def tokens? (text : String) : Option (List Token) :=
  match text.toList with
  | [] => some []
  | cs => tokensFrom? (cs.length + 1) false cs

end Exchange.XPath
