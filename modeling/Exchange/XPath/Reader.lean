import Exchange.XPath.Token

/-! # Reading XPath expressions

Expressions are read from tokens by levels of operators, the loosest first. A function of this
module has no value for a fault, and otherwise what it read, if anything, with the tokens that
follow; whether reading nothing is a fault depends on what was expected. An axis without a node
test reads as nothing, and so do parentheses without an expression; what may stand in their place
is then looked for behind them.

The reader stands, with the tokens, for that of the package `sxd-xpath`. Of it is assumed that what it
makes of a text depends on the text alone, that it takes just the texts that are read here, and that
it knows nothing of namespaces.
-/

namespace Exchange.XPath

/-- The operators of a level; unary minus stands between the levels of multiplication and union. -/
def levelOf : BinaryOp → Nat
  | .or => 0
  | .and => 1
  | .equal | .notEqual => 2
  | .less | .lessOrEqual | .greater | .greaterOrEqual => 3
  | .plus | .minus => 4
  | .times | .divide | .modulo => 5
  | .union => 7

/-- The level of unary minus. -/
def unaryLevel : Nat := 6

/-- The level below all operators. -/
def pathLevel : Nat := 8

mutual
/-- Read an expression whose operators are of a level or a tighter one. -/
def readLevel : Nat → Nat → List Token → Option (Option Expr × List Token)
  | 0, _, _ => none
  | fuel + 1, level, tokens =>
    if level = pathLevel then readPath fuel tokens
    else if level = unaryLevel then do
      match ← readLevel fuel (level + 1) tokens with
      | (some e, rest) => some (some e, rest)
      | (none, .operator .minus :: rest) =>
        match ← readLevel fuel level rest with
        | (some e, rest) => some (some (.negate e), rest)
        | (none, _) => none
      | (none, rest) => some (none, rest)
    else do
      match ← readLevel fuel (level + 1) tokens with
      | (some e, rest) => readOperands fuel level e rest
      | (none, rest) => some (none, rest)

/-- Read further operands of a level behind the first. -/
def readOperands : Nat → Nat → Expr → List Token → Option (Option Expr × List Token)
  | 0, _, _, _ => none
  | fuel + 1, level, left, tokens =>
    match tokens with
    | .operator op :: rest =>
      if levelOf op = level then do
        match ← readLevel fuel (level + 1) rest with
        | (some right, rest) => readOperands fuel level (.binary op left right) rest
        | (none, _) => none
      else some (some left, tokens)
    | _ => some (some left, tokens)

/-- Read a path, or another expression and the path behind it. -/
def readPath : Nat → List Token → Option (Option Expr × List Token)
  | 0, _ => none
  | fuel + 1, tokens => do
    match ← readSteps fuel .context tokens with
    | (some e, rest) => some (some e, rest)
    | (none, .slash :: rest) =>
      match ← readSteps fuel .root rest with
      | (some e, rest) => some (some e, rest)
      | (none, rest) => some (some .root, rest)
    | (none, rest) =>
      match ← readPrimary fuel rest with
      | (none, rest) => some (none, rest)
      | (some e, rest) =>
        let (conditions, rest) ← readPredicates fuel rest
        let filtered := conditions.foldl Expr.filter e
        match rest with
        | .slash :: rest =>
          match ← readSteps fuel filtered rest with
          | (some e, rest) => some (some e, rest)
          | (none, _) => none
        | rest => some (some filtered, rest)

/-- Read steps with slashes between them from a starting point. -/
def readSteps : Nat → Expr → List Token → Option (Option Expr × List Token)
  | 0, _, _ => none
  | fuel + 1, start, tokens => do
    match ← readStep fuel tokens with
    | (none, rest) => some (none, rest)
    | (some step, rest) =>
      let (steps, rest) ← readMoreSteps fuel rest
      some (some (.path start (step :: steps)), rest)

/-- Read the steps behind a step. -/
def readMoreSteps : Nat → List Token → Option (List Step × List Token)
  | 0, _ => none
  | fuel + 1, tokens =>
    match tokens with
    | .slash :: rest => do
      match ← readStep fuel rest with
      | (none, _) => none
      | (some step, rest) =>
        let (steps, rest) ← readMoreSteps fuel rest
        some (step :: steps, rest)
    | _ => some ([], tokens)

/-- Read a step. -/
def readStep : Nat → List Token → Option (Option Step × List Token)
  | 0, _ => none
  | fuel + 1, tokens =>
    let (axis, rest) := match tokens with
      | .axis axis :: rest => (axis, rest)
      | _ => (Axis.child, tokens)
    let test : Option NodeTest := match rest with
      | .nodeTest test :: _ => some test
      | .name name :: _ => some (.name name)
      | _ => none
    match test with
    | none => some (none, rest)
    | some test => do
      let (conditions, rest) ← readPredicates fuel (rest.drop 1)
      some (some (axis, test, conditions), rest)

/-- Read predicates in brackets, none of which may be empty. -/
def readPredicates : Nat → List Token → Option (List Expr × List Token)
  | 0, _ => none
  | fuel + 1, tokens =>
    match tokens with
    | .openBracket :: rest => do
      match ← readLevel fuel 0 rest with
      | (some condition, .closeBracket :: rest) =>
        let (conditions, rest) ← readPredicates fuel rest
        some (condition :: conditions, rest)
      | _ => none
    | _ => some ([], tokens)

/-- Read an expression that is no path: a variable, an expression in parentheses, or what
    `readSimple` reads, in front of which there may be parentheses without an expression. -/
def readPrimary : Nat → List Token → Option (Option Expr × List Token)
  | 0, _ => none
  | fuel + 1, tokens =>
    match tokens with
    | .variable name :: rest => some (some (.variable name), rest)
    | .openParen :: rest => do
      match ← readLevel fuel 0 rest with
      | (some e, .closeParen :: rest) => some (some e, rest)
      | (none, .closeParen :: rest) => readSimple fuel rest
      | _ => none
    | _ => readSimple fuel tokens

/-- Read a literal, a number or a call. -/
def readSimple : Nat → List Token → Option (Option Expr × List Token)
  | 0, _ => none
  | fuel + 1, tokens =>
    match tokens with
    | .literal s :: rest => some (some (.literal s), rest)
    | .number x :: rest => some (some (.number x), rest)
    | .function name :: .openParen :: .closeParen :: rest => some (some (.call name []), rest)
    | .function name :: .openParen :: rest => do
      let (arguments, rest) ← readArguments fuel rest
      some (some (.call name arguments), rest)
    | _ => some (none, tokens)

/-- Read the arguments of a call up to the closing parenthesis. -/
def readArguments : Nat → List Token → Option (List Expr × List Token)
  | 0, _ => none
  | fuel + 1, tokens => do
    match ← readLevel fuel 0 tokens with
    | (some e, .closeParen :: rest) => some ([e], rest)
    | (some e, .comma :: rest) =>
      let (arguments, rest) ← readArguments fuel rest
      some (e :: arguments, rest)
    | _ => none
end

/-- Read an expression; `some none` where the text says nothing. -/
def read? (text : String) : Option (Option Expr) := do
  let tokens ← tokens? text
  let (e, rest) ← readLevel (16 * (tokens.length + 1)) 0 tokens
  if rest.isEmpty then some e else none

end Exchange.XPath
