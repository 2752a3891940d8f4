import Exchange.Query.Basic
import Exchange.XPath.Reader

/-! # Built expressions

Building an expression from its text depends on the text alone, so what was built once is kept. A
text that cannot be built is not kept.
-/

namespace Exchange.XPath

open Query (CompileFault)

/-- Build an expression from its text. -/
def build (text : String) : Except CompileFault Expr :=
  match read? text with
  | some (some e) => .ok e
  | some none => .error .empty
  | none => .error .malformed

/-- What has been built so far, by text. -/
abbrev Cache := Table Expr

namespace Cache

/-- Build an expression, or find it among what has been built. -/
def build (cache : Cache) (text : String) : Except CompileFault Expr × Cache :=
  match cache.find? text with
  | some e => (.ok e, cache)
  | none => match XPath.build text with
    | .ok e => (.ok e, cache.insert text e)
    | .error fault => (.error fault, cache)

/-- Every text has the expression that is built from it. -/
def Sound (cache : Cache) : Prop :=
  ∀ text e, cache.find? text = some e → XPath.build text = .ok e

end Cache

end Exchange.XPath
