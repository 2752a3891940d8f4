import Exchange.Predicate.Basic
import Exchange.Regex.Reader
import Exchange.Text.LowerCase
import Exchange.Text.Split

/-! # Checks of texts

A text check compares a text with another one, searches it for a pattern, or asks whether there is
a text at all; options make it disregard letter case or turn it round. A check with a pattern has
to be compiled before it can be used.
-/

namespace Exchange

/-- How a text is compared with the expected one. -/
inductive TextOp where
  | equals
  | contains
  | startsWith
  | endsWith
  deriving Repr, DecidableEq

namespace TextOp

/-- Does the comparison hold of a text and the expected one? -/
def holds (op : TextOp) (text expected : String) : Bool :=
  match op with
  | equals => text == expected
  | contains => Text.occursIn expected.toList text.toList
  | startsWith => expected.toList.isPrefixOf text.toList
  | endsWith => Text.endsWith text.toList expected.toList

/-- The name of the comparison. -/
def name : TextOp → String
  | equals => "Equals"
  | contains => "Contains"
  | startsWith => "StartsWith"
  | endsWith => "EndsWith"

/-- The comparison in words, in front of the expected text. -/
def words : TextOp → String
  | equals => ""
  | contains => "a string containing "
  | startsWith => "a string starting with "
  | endsWith => "a string ending with "

end TextOp

/-- What a text check asks. -/
inductive TextMatcher where
  | compare (op : TextOp) (expected : String)
  /-- Is the pattern found in the text? -/
  | pattern (pattern : String)
  /-- Is there a text, or is there none? -/
  | presence (expected : Bool)
  deriving Repr, DecidableEq

instance : Shown TextMatcher where
  shown m := match m with
    | .compare op expected => op.name ++ "(" ++ shown expected ++ ")"
    | .pattern p => "Matches(" ++ shown p ++ ")"
    | .presence expected => "Exists(" ++ shown expected ++ ")"

/-- How the answer is found and used. -/
structure TextOptions where
  caseSensitive : Bool := true
  /-- Turn the answer round. -/
  negated : Bool := false
  deriving Repr, DecidableEq

/-- A text check as it is written down. -/
structure TextCheck where
  matcher : TextMatcher := .presence true
  options : TextOptions := {}
  deriving Repr, DecidableEq

/-- What a compiled text check asks. -/
inductive CompiledMatcher where
  | compare (op : TextOp) (expected : String)
  /-- A pattern as written, and what was read of it. -/
  | pattern (written : String) (pattern : Regex.Pattern)
  | presence (expected : Bool)

/-- A text check that is ready for use. -/
structure TextPredicate where
  matcher : CompiledMatcher
  options : TextOptions := {}

/-- Compile what a check asks; a text that is no pattern cannot be compiled. -/
def TextMatcher.compile? : TextMatcher → Option CompiledMatcher
  | compare op expected => some (.compare op expected)
  | pattern written => (Regex.read? written).map (.pattern written)
  | presence expected => some (.presence expected)

/-- Compile a check. -/
def TextCheck.compile? (c : TextCheck) : Option TextPredicate :=
  c.matcher.compile?.map fun m => ⟨m, c.options⟩

namespace CompiledMatcher

/-- Compare texts, where letter case may not count. -/
def found (op : TextOp) (expected text : String) (caseSensitive : Bool) : Bool :=
  if caseSensitive then op.holds text expected
  else op.holds (Text.lower text) (Text.lower expected)

/-- The answer for a text that may be absent. Only the question of presence accepts an absent text,
    and patterns have flags of their own for letter case. -/
def answer (caseSensitive : Bool) : CompiledMatcher → Option String → Bool
  | presence expected, text => expected == text.isSome
  | _, none => false
  | compare op expected, some text => found op expected text caseSensitive
  | pattern _ p, some text => p.foundIn text

/-- The question in words. -/
def description : CompiledMatcher → String
  | compare op expected => op.words ++ shown expected
  | pattern written _ => "a string matching /" ++ written ++ "/"
  | presence true => "any value"
  | presence false => "no value"

end CompiledMatcher

namespace TextPredicate

/-- Does a text that may be absent pass the check? -/
def acceptsOptional (p : TextPredicate) (text : Option String) : Bool :=
  p.matcher.answer p.options.caseSensitive text != p.options.negated

/-- The check in words. -/
def description (p : TextPredicate) : String :=
  let words := p.matcher.description
  let words := if p.options.caseSensitive then words else words ++ " ignoring case"
  if p.options.negated then "not " ++ words else words

/-- The check as a predicate on texts. -/
def toPredicate (p : TextPredicate) : Predicate String :=
  .holds p.description fun text => p.acceptsOptional (some text)

/-- The comparison of a text with an expected one. -/
def comparing (op : TextOp) (expected : String) (caseSensitive : Bool) : TextPredicate :=
  ⟨.compare op expected, { caseSensitive := caseSensitive }⟩

end TextPredicate

end Exchange
