import Exchange.Number.Layout
import Exchange.Number.Numeral
import Exchange.XPath.Tree

/-! # Values of XPath expressions

A value is a set of nodes, a truth value, a number or a text, and each can be read as each of the
last three kinds.
-/

namespace Exchange.XPath

/-- A value; nodes stand in document order, each once. -/
inductive Value where
  | nodes (nodes : List Nat)
  | boolean (b : Bool)
  | number (x : Float)
  | string (s : String)

/-- Numbers as texts in XPath. -/
def numberLayout : Number.Layout := { Number.Layout.plain with infinity := "Infinity" }

/-- The number that a text reads as. -/
def toNumber (s : String) : Float := (Number.readFloat? (Text.trim s)).getD (0.0 / 0.0)

namespace Value

/-- The value as a text; of nodes, the text of the first. -/
def toText (t : Tree) : Value → String
  | nodes ns => (ns.head?.map t.text).getD ""
  | boolean b => if b then "true" else "false"
  | number x => numberLayout.write x
  | string s => s

/-- The value as a number. -/
def toFloat (t : Tree) : Value → Float
  | boolean b => if b then 1.0 else 0.0
  | number x => x
  | v => toNumber (v.toText t)

/-- The value as a truth value. -/
def toBool : Value → Bool
  | nodes ns => !ns.isEmpty
  | boolean b => b
  | number x => !(x == 0.0) && !x.isNaN
  | string s => s != ""

/-- Equality as XPath has it: nodes equal what the text of one of them equals. -/
def equal (t : Tree) : Value → Value → Bool
  | boolean a, b => a == b.toBool
  | a, boolean b => a.toBool == b
  | nodes ms, nodes ns =>
    let texts := ns.map t.text
    ms.any fun m => texts.contains (t.text m)
  | nodes ns, number x | number x, nodes ns => ns.any fun n => toNumber (t.text n) == x
  | nodes ns, string s | string s, nodes ns => ns.any fun n => t.text n == s
  | number x, b => x == b.toFloat t
  | a, number y => a.toFloat t == y
  | string a, string b => a == b

end Value

end Exchange.XPath
