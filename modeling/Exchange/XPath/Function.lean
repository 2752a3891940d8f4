import Exchange.Text.Split
import Exchange.XPath.Value

/-! # The functions of XPath

The core functions, on values and the place of the evaluation in its node list.
-/

namespace Exchange.XPath

/-- Why an expression has no value. -/
inductive Fault where
  | unknownFunction (name : QName)
  | unknownVariable (name : QName)
  | unboundPrefix (name : String)
  | argumentCount (function : String)
  /-- Something that is no set of nodes is used as one. -/
  | notNodes
  deriving Repr, DecidableEq

/-- Where an expression is evaluated: at a node, which stands at a position in a list of nodes. -/
structure Context where
  node : Nat
  position : Nat
  size : Nat
  deriving Repr, DecidableEq

/-- The nodes of a value. -/
def Value.nodes? : Value → Except Fault (List Nat)
  | .nodes ns => .ok ns
  | _ => .error .notNodes

/-- The characters of a text at the positions from `start` on, up to but without `stop`; positions
    count from 1 and are compared as numbers. -/
def substring (start stop : Float) (cs : List Char) : List Char :=
  ((cs.zipIdx 1).filter fun (_, i) => start ≤ Float.ofNat i ∧ Float.ofNat i < stop).map Prod.fst

/-- The words of a text with one blank between them. -/
def normalizeSpace (cs : List Char) : List Char :=
  let isSpace (c : Char) := c = ' ' || c = '\t' || c = '\n' || c = '\r'
  let words := (Text.splitAll ' ' (cs.map fun c => if isSpace c then ' ' else c)).filter (· ≠ [])
  [' '].intercalate words

/-- Replace the characters of one text by those at the same places of another, or drop them. -/
def substitute (source target cs : List Char) : List Char :=
  cs.filterMap fun c =>
    if source.contains c then target[source.idxOf c]? else some c

/-- What stands before and after the first occurrence of a text, if there is one. -/
def cutAt? (needle : List Char) : List Char → Option (List Char × List Char)
  | [] => if needle = [] then some ([], []) else none
  | c :: rest =>
    if needle.isPrefixOf (c :: rest) then some ([], (c :: rest).drop needle.length)
    else (cutAt? needle rest).map fun (before, after) => (c :: before, after)

/-- Call a function by its name. -/
def callFunction (t : Tree) (at_ : Context) (name : String) (arguments : List Value) :
    Except Fault Value :=
  let wrongCount : Except Fault Value := .error (.argumentCount name)
  -- A function of one text or node set, which is the present node where no argument is given.
  let ofText (f : String → Value) : Except Fault Value := match arguments with
    | [] => .ok (f (t.text at_.node))
    | [v] => .ok (f (v.toText t))
    | _ => wrongCount
  let ofFirst (f : Nat → String) : Except Fault Value := match arguments with
    | [] => .ok (.string (f at_.node))
    | [v] => v.nodes?.map fun ns => .string ((ns.head?.map f).getD "")
    | _ => wrongCount
  let ofNumber (f : Float → Float) : Except Fault Value := match arguments with
    | [v] => .ok (.number (f (v.toFloat t)))
    | _ => wrongCount
  let ofTexts (f : List Char → List Char → Value) : Except Fault Value := match arguments with
    | [a, b] => .ok (f (a.toText t).toList (b.toText t).toList)
    | _ => wrongCount
  let text (cs : List Char) : Value := .string (String.ofList cs)
  match name with
  | "last" => if arguments.isEmpty then .ok (.number (Float.ofNat at_.size)) else wrongCount
  | "position" =>
    if arguments.isEmpty then .ok (.number (Float.ofNat at_.position)) else wrongCount
  | "count" => match arguments with
    | [v] => v.nodes?.map fun ns => .number (Float.ofNat ns.length)
    | _ => wrongCount
  | "local-name" => ofFirst t.localName
  | "namespace-uri" => ofFirst t.namespaceUri
  | "name" => ofFirst t.writtenName
  | "string" => ofText .string
  | "concat" =>
    if arguments.length < 2 then wrongCount
    else .ok (.string (String.join (arguments.map fun v => v.toText t)))
  | "starts-with" => ofTexts fun a b => .boolean (b.isPrefixOf a)
  | "contains" => ofTexts fun a b => .boolean (Text.occursIn b a)
  | "substring-before" => ofTexts fun a b => text (((cutAt? b a).map Prod.fst).getD [])
  | "substring-after" => ofTexts fun a b => text (((cutAt? b a).map Prod.snd).getD [])
  | "substring" => match arguments with
    | [s, start] =>
      let first := Number.roundHalfUp (start.toFloat t)
      -- Without a length, all that follows; from minus infinity on nothing does.
      .ok (text (substring first (first + 1.0 / 0.0) (s.toText t).toList))
    | [s, start, length] =>
      let first := Number.roundHalfUp (start.toFloat t)
      let count := Number.roundHalfUp (length.toFloat t)
      .ok (text (substring first (first + count) (s.toText t).toList))
    | _ => wrongCount
  | "string-length" => ofText fun s => .number (Float.ofNat s.length)
  | "normalize-space" => ofText fun s => text (normalizeSpace s.toList)
  | "translate" => match arguments with
    | [s, source, target] =>
      .ok (text (substitute (source.toText t).toList (target.toText t).toList (s.toText t).toList))
    | _ => wrongCount
  | "boolean" => match arguments with
    | [v] => .ok (.boolean v.toBool)
    | _ => wrongCount
  | "not" => match arguments with
    | [v] => .ok (.boolean !v.toBool)
    | _ => wrongCount
  | "true" => if arguments.isEmpty then .ok (.boolean true) else wrongCount
  | "false" => if arguments.isEmpty then .ok (.boolean false) else wrongCount
  | "number" => match arguments with
    | [] => .ok (.number (toNumber (t.text at_.node)))
    | [v] => .ok (.number (v.toFloat t))
    | _ => wrongCount
  | "sum" => match arguments with
    | [v] => v.nodes?.map fun ns =>
      .number (ns.foldl (fun total n => total + toNumber (t.text n)) 0.0)
    | _ => wrongCount
  | "floor" => ofNumber Number.floor
  | "ceiling" => ofNumber Number.ceiling
  | "round" => ofNumber Number.roundHalfUp
  | _ => .error (.unknownFunction ⟨none, name⟩)

end Exchange.XPath
