import Exchange.Number.Layout
import Exchange.Text.Quoted

/-! # Values in messages

`Shown.shown` is the text by which a message names a value: texts stand in quotes and a present
optional value is marked as such, so that different values look different.
-/

namespace Exchange

/-- Types whose values can be named in a message. -/
class Shown (α : Type) where
  shown : α → String

export Shown (shown)

namespace Text

/-- Texts with a comma and a blank between them. -/
def commaSeparated (texts : List String) : String := ", ".intercalate texts

/-- Texts in square brackets. -/
def bracketed (texts : List String) : String := "[" ++ commaSeparated texts ++ "]"

end Text

instance : Shown String := ⟨Text.quoted⟩

instance : Shown Bool := ⟨fun b => if b then "true" else "false"⟩

instance : Shown Nat := ⟨fun n => String.ofList (Nat.toDigits 10 n)⟩

instance : Shown UInt8 := ⟨fun n => shown n.toNat⟩

instance : Shown Int := ⟨fun n => if n < 0 then "-" ++ shown n.natAbs else shown n.natAbs⟩

instance : Shown Float := ⟨Number.Layout.message.write⟩

instance {α : Type} [Shown α] : Shown (List α) := ⟨fun xs => Text.bracketed (xs.map shown)⟩

instance {α : Type} [Shown α] : Shown (Option α) :=
  ⟨fun x => match x with
    | some a => "Some(" ++ shown a ++ ")"
    | none => "None"⟩

instance {α β : Type} [Shown α] [Shown β] : Shown (α × β) :=
  ⟨fun (a, b) => "(" ++ shown a ++ ", " ++ shown b ++ ")"⟩

end Exchange
