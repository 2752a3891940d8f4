import Exchange.Number.Binary64

/-! # The fewest digits that read back

The reals that round to a given positive double form an interval around it. `shortest` gives the
decimal with the fewest digits in that interval, and of those the one nearest to the number; of two
equally near ones, the greater or the one with an even last digit, as the caller wishes.
-/

namespace Exchange.Number

/-- The positive number `digits * 10 ^ exponent`. -/
structure Decimal where
  digits : Nat
  exponent : Int
  deriving Repr, DecidableEq

/-- Take zeros off the end of the digits; `fuel` bounds their number. -/
def Decimal.stripZeros : Nat → Decimal → Decimal
  | 0, d => d
  | fuel + 1, d =>
    if d.digits ≠ 0 ∧ d.digits % 10 = 0 then stripZeros fuel ⟨d.digits / 10, d.exponent + 1⟩ else d

/-- A double and the ends of its interval in quarters of its unit: the number is
    `middle * 2 ^ exponent`, and reals between `low` and `high` round to it, the ends included
    where `closed` holds. -/
structure Rounding where
  low : Nat
  middle : Nat
  high : Nat
  exponent : Int
  closed : Bool
  deriving Repr, DecidableEq

/-- The interval of the double `significand * 2 ^ exponent`; below a power of two the neighbour is
    only half as far. -/
def roundingInterval (significand : Nat) (exponent : Int) : Rounding :=
  let narrow := significand = Nat.pow 2 52 ∧ exponent > -1074
  { low := 4 * significand - (if narrow then 1 else 2)
    middle := 4 * significand
    high := 4 * significand + 2
    exponent := exponent - 2
    closed := significand % 2 = 0 }

/-- Which of two equally near decimals is taken. -/
inductive Tie where
  | toGreater
  | toEven
  deriving Repr, DecidableEq

/-- The point of the decimal grid of step `10 ^ e` that lies in the interval and is nearest to the
    number, when there is one. -/
def gridPoint? (tie : Tie) (r : Rounding) (e : Int) : Option Nat :=
  let binary (n : Nat) := n * Nat.pow 2 r.exponent.toNat * Nat.pow 10 (-e).toNat
  let unit := Nat.pow 10 e.toNat * Nat.pow 2 (-r.exponent).toNat
  let inside (d : Nat) :=
    if r.closed then binary r.low ≤ d * unit ∧ d * unit ≤ binary r.high
    else binary r.low < d * unit ∧ d * unit < binary r.high
  let below := binary r.middle / unit
  let above := below + 1
  let up := above * unit - binary r.middle
  let down := binary r.middle - below * unit
  let nearAbove := up < down ∨ (up = down ∧ (tie = .toGreater ∨ below % 2 = 1))
  if inside below ∧ ¬ (inside above ∧ nearAbove) then some below
  else if inside above then some above
  else none

/-- Try grids from coarse to fine, the first with step `10 ^ e`. -/
def firstGridPoint (tie : Tie) (r : Rounding) : Nat → Int → Decimal
  | 0, e => ⟨(gridPoint? tie r e).getD 0, e⟩
  | finer + 1, e =>
    match gridPoint? tie r e with
    | some digits => ⟨digits, e⟩
    | none => firstGridPoint tie r finer (e - 1)

/-- The shortest decimal that reads back as the positive double `significand * 2 ^ exponent`. -/
def shortest (tie : Tie) (significand : Nat) (exponent : Int) : Decimal :=
  let leading := (Nat.log2 significand + exponent) * 30103 / 100000 + 1
  (firstGridPoint tie (roundingInterval significand exponent) 18 leading).stripZeros 400

end Exchange.Number
