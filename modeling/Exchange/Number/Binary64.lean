/-! # Double-precision numbers, exactly

A finite double is a sign and a natural number times a power of two. This module takes doubles
apart that way, puts them together again, and computes on the parts the operations whose results
are exact: rounding to an integer and the remainder of a division.
-/

namespace Exchange.Number

/-- What the 64 bits of a double say. -/
inductive Parts where
  /-- Not a number. -/
  | nan
  /-- Positive or negative infinity. -/
  | infinite (negative : Bool)
  /-- The number `significand * 2 ^ exponent`, with a sign that zero has too. -/
  | finite (negative : Bool) (significand : Nat) (exponent : Int)
  deriving Repr, DecidableEq

/-- Take a double apart. -/
def parts (x : Float) : Parts :=
  let bits := x.toBits.toNat
  let negative := bits / Nat.pow 2 63 == 1
  let exponent : Nat := bits / Nat.pow 2 52 % Nat.pow 2 11
  let fraction : Nat := bits % Nat.pow 2 52
  if exponent = 2047 then if fraction = 0 then .infinite negative else .nan
  else if exponent = 0 then .finite negative fraction (-1074)
  else .finite negative (fraction + Nat.pow 2 52) ((exponent : Int) - 1075)

/-- The double `significand * 2 ^ exponent`, for a number that is one. -/
def ofParts (negative : Bool) (significand : Nat) (exponent : Int) : Float :=
  let sign := if negative then Nat.pow 2 63 else 0
  if significand = 0 then Float.ofBits (UInt64.ofNat sign)
  else
    let width := Nat.log2 significand
    let field := width + exponent + 1023
    if 1 ≤ field then
      let scaled := significand * Nat.pow 2 (52 - width) / Nat.pow 2 (width - 52)
      Float.ofBits (UInt64.ofNat (sign + field.toNat * Nat.pow 2 52 + (scaled - Nat.pow 2 52)))
    else
      let shift := exponent + 1074
      let scaled := significand * Nat.pow 2 shift.toNat / Nat.pow 2 (-shift).toNat
      Float.ofBits (UInt64.ofNat (sign + scaled))

/-- The integer part of `significand * 2 ^ exponent`, and whether anything is left over. -/
def splitFraction (significand : Nat) (exponent : Int) : Nat × Bool :=
  let whole := significand * Nat.pow 2 exponent.toNat / Nat.pow 2 (-exponent).toNat
  (whole, significand * Nat.pow 2 exponent.toNat % Nat.pow 2 (-exponent).toNat != 0)

/-- A double with a given sign and a natural number as magnitude. -/
def signed (negative : Bool) (magnitude : Nat) : Float :=
  if negative then -(Float.ofNat magnitude) else Float.ofNat magnitude

/-- The greatest integer that is not above the number. -/
def floor (x : Float) : Float :=
  match parts x with
  | .finite negative significand exponent =>
    let (whole, rest) := splitFraction significand exponent
    signed negative (if negative && rest then whole + 1 else whole)
  | _ => x

/-- The least integer that is not below the number. -/
def ceiling (x : Float) : Float := -(floor (-x))

/-- Is the sign bit set? -/
def isNegative (x : Float) : Bool := x.toBits.toNat / Nat.pow 2 63 == 1

/-- The nearest integer, the greater one of two equally near, with the sign of the number. It is
    found in double arithmetic, as the floor of twice the number less its own floor. -/
def roundHalfUp (x : Float) : Float :=
  let low := floor x
  if x == low then x
  else
    let nearest := floor (2.0 * x - low)
    if isNegative x != isNegative nearest then -nearest else nearest

/-- The integer part toward zero, as an integer. -/
def truncate? (x : Float) : Option Int :=
  match parts x with
  | .finite negative significand exponent =>
    let whole : Int := (splitFraction significand exponent).1
    some (if negative then -whole else whole)
  | _ => none

/-- The remainder of a division toward zero; it has the sign of the dividend. -/
def remainder (x y : Float) : Float :=
  match parts x, parts y with
  | .finite negative m e, .finite _ n f =>
    if n = 0 then 0.0 / 0.0
    else
      let low := min e f
      ofParts negative (m * Nat.pow 2 (e - low).toNat % (n * Nat.pow 2 (f - low).toNat)) low
  | .finite .., .infinite _ => x
  | _, _ => 0.0 / 0.0

end Exchange.Number
