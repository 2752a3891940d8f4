import Exchange.Number.Shortest

/-! # How a number is written

A layout decides between positional notation and an exponent and how each looks. Every layout
writes the digits of the shortest decimal that reads back.
-/

namespace Exchange.Number

/-- The decisions that a written number shows. -/
structure Layout where
  /-- Is a number whose first digit stands for this power of ten written positionally? -/
  positional : Int → Bool
  /-- Do integers in positional notation end in `.0`? -/
  pointZero : Bool
  /-- Is a plus sign written before a positive exponent? -/
  plusExponent : Bool
  /-- Which of two equally short and equally near decimals is written. -/
  tie : Tie
  /-- The words for what is no finite number. -/
  nan : String
  infinity : String

/-- Numbers in messages: `1.0`, `1e16`, `1e-5`. -/
def Layout.message : Layout :=
  ⟨fun p => -4 ≤ p ∧ p < 16, true, false, .toGreater, "NaN", "inf"⟩

/-- Numbers as plain text: `1`, never an exponent. -/
def Layout.plain : Layout := ⟨fun _ => true, false, false, .toGreater, "NaN", "inf"⟩

/-- Numbers in JSON: `1.0`, `1e+16`, `1e-6`. JSON has no other words than numbers. -/
def Layout.json : Layout := ⟨fun p => -5 ≤ p ∧ p < 16, true, true, .toEven, "null", "null"⟩

/-- Digits with the point where the exponent puts it. -/
def positionalDigits (layout : Layout) (digits : List Char) (exponent : Int) : List Char :=
  if 0 ≤ exponent then
    digits ++ List.replicate exponent.toNat '0' ++ if layout.pointZero then ['.', '0'] else []
  else
    let places := (-exponent).toNat
    let padded := List.replicate (places + 1 - digits.length) '0' ++ digits
    padded.take (padded.length - places) ++ '.' :: padded.drop (padded.length - places)

/-- One digit, a point before the others, and the power of ten. -/
def scientificDigits (layout : Layout) (digits : List Char) (power : Int) : List Char :=
  let fraction := if digits.length ≤ 1 then [] else '.' :: digits.drop 1
  let sign := if power < 0 then ['-'] else if layout.plusExponent then ['+'] else []
  digits.take 1 ++ fraction ++ 'e' :: sign ++ Nat.toDigits 10 power.natAbs

/-- Write a number that is not negative. -/
def Layout.writeMagnitude (layout : Layout) (significand : Nat) (exponent : Int) : List Char :=
  if significand = 0 then if layout.pointZero then ['0', '.', '0'] else ['0']
  else
    let d := shortest layout.tie significand exponent
    let digits := Nat.toDigits 10 d.digits
    let power := d.exponent + digits.length - 1
    if layout.positional power then positionalDigits layout digits d.exponent
    else scientificDigits layout digits power

/-- Write a number. -/
def Layout.write (layout : Layout) (x : Float) : String :=
  match parts x with
  | .nan => layout.nan
  | .infinite negative => if negative then "-" ++ layout.infinity else layout.infinity
  | .finite negative significand exponent =>
    let text := String.ofList (layout.writeMagnitude significand exponent)
    if negative then "-" ++ text else text

end Exchange.Number
