import Mathlib

/-! # Rounding to 53 binary places

A double holds 53 binary places of a number. A natural number with more of them is rounded to the
nearest one that has no more, and of two equally near ones to the one whose last place is even.
-/

namespace Exchange.Number

/-- `n / d` rounded to the nearest natural number, halfway to the even one. -/
def halfEven (n d : Nat) : Nat :=
  if 2 * (n % d) < d then n / d
  else if 2 * (n % d) = d then n / d + n / d % 2
  else n / d + 1

theorem halfEven_mul_right {c : Nat} (pos : 0 < c) (n d : Nat) :
    halfEven (n * c) (d * c) = halfEven n d := by
  have below : 2 * (n % d * c) < d * c ↔ 2 * (n % d) < d := by
    rw [← Nat.mul_assoc, Nat.mul_lt_mul_right pos]
  have halfway : 2 * (n % d * c) = d * c ↔ 2 * (n % d) = d := by
    rw [← Nat.mul_assoc, Nat.mul_left_inj pos.ne']
  simp only [halfEven, Nat.mul_mod_mul_right, Nat.mul_div_mul_right n d pos, below, halfway]

theorem halfEven_mul_self {d : Nat} (pos : 0 < d) (q : Nat) : halfEven (q * d) d = q := by
  simp [halfEven, pos]

theorem le_halfEven (n d : Nat) : n / d ≤ halfEven n d := by
  unfold halfEven
  split_ifs <;> omega

theorem halfEven_le (n d : Nat) : halfEven n d ≤ n / d + 1 := by
  unfold halfEven
  split_ifs <;> omega

theorem halfEven_error {d : Nat} (pos : 0 < d) (n : Nat) :
    |(halfEven n d * d : Int) - n| ≤ (n % d : Nat) ∧
      |(halfEven n d * d : Int) - n| ≤ d - (n % d : Nat) := by
  have parts : (n : Int) = (n / d : Nat) * d + (n % d : Nat) := by
    exact_mod_cast (Nat.div_add_mod' n d).symm
  have rest : n % d < d := Nat.mod_lt n pos
  have rounded : halfEven n d = n / d ∧ 2 * (n % d) ≤ d ∨
      halfEven n d = n / d + 1 ∧ d ≤ 2 * (n % d) := by
    unfold halfEven
    split_ifs <;> omega
  rw [parts]
  generalize n / d = q, n % d = r at *
  rcases rounded with ⟨down, low⟩ | ⟨up, high⟩
  · have error : (halfEven n d * d : Int) - (q * d + r) = -r := by rw [down]; ring
    rw [error, abs_neg, Nat.abs_cast]
    omega
  · have error : (halfEven n d * d : Int) - (q * d + r) = d - r := by rw [up]; push_cast; ring
    rw [error, abs_of_nonneg (by omega)]
    omega

/-- No multiple of `d` is nearer to `n` than the rounded one. -/
theorem halfEven_closest {d : Nat} (pos : 0 < d) (n m : Nat) :
    |(halfEven n d * d : Int) - n| ≤ |(m * d : Int) - n| := by
  have parts : n = n / d * d + n % d := (Nat.div_add_mod' n d).symm
  obtain ⟨left, missing⟩ := halfEven_error pos n
  rcases Nat.lt_or_ge (n / d) m with above | below
  · have next : n / d * d + d ≤ m * d := by
      simpa only [Nat.succ_mul] using Nat.mul_le_mul_right d above
    refine missing.trans (le_abs.mpr (.inl ?_))
    zify at parts next ⊢
    linarith
  · have last : m * d ≤ n / d * d := Nat.mul_le_mul_right d below
    refine left.trans (le_abs.mpr (.inr ?_))
    zify at parts last ⊢
    linarith

/-- The binary places of a natural number beyond the 53 that a double holds. -/
def surplus (n : Nat) : Nat := n.log2 - 52

/-- The natural number nearest to `n` that has at most 53 binary places before its zeros. -/
def nearest (n : Nat) : Nat := halfEven n (2 ^ surplus n) * 2 ^ surplus n

theorem nearest_of_surplus {n : Nat} (none : surplus n = 0) : nearest n = n := by
  simpa [nearest, none] using halfEven_mul_self Nat.one_pos n

theorem surplus_of_lt {n : Nat} (small : n < 2 ^ 53) : surplus n = 0 := by
  rcases Nat.eq_zero_or_pos n with rfl | pos
  · rfl
  · have : n.log2 < 53 := (Nat.log2_lt pos.ne').mpr small
    simp only [surplus]
    omega

theorem nearest_of_lt {n : Nat} (small : n < 2 ^ 53) : nearest n = n :=
  nearest_of_surplus (surplus_of_lt small)

theorem nearest_of_le {n : Nat} (small : n ≤ 2 ^ 53) : nearest n = n := by
  rcases small.lt_or_eq with less | rfl
  · exact nearest_of_lt less
  · decide +kernel

/-- The integer nearest to `n` that a double holds. -/
def nearestInt : Int → Int
  | .ofNat n => nearest n
  | .negSucc n => -nearest (n + 1)

theorem nearestInt_of_le {n : Int} (small : n.natAbs ≤ 2 ^ 53) : nearestInt n = n := by
  cases n with
  | ofNat n => exact congrArg Int.ofNat (nearest_of_le small)
  | negSucc n =>
      simp only [nearestInt, nearest_of_le (show n + 1 ≤ 2 ^ 53 from small)]
      omega

theorem log2_of_surplus {n : Nat} (wide : surplus n ≠ 0) : n.log2 = 52 + surplus n := by
  simp only [surplus] at wide ⊢
  omega

theorem le_of_surplus {n : Nat} (wide : surplus n ≠ 0) : 2 ^ 52 * 2 ^ surplus n ≤ n := by
  have nonzero : n ≠ 0 := by
    rintro rfl
    exact wide rfl
  rw [← Nat.pow_add, ← log2_of_surplus wide]
  exact Nat.log2_self_le nonzero

/-- No number of 53 places and zeros is nearer to `n`. -/
theorem nearest_closest (n m zeros : Nat) (held : m < 2 ^ 53) :
    |(nearest n : Int) - n| ≤ |(m * 2 ^ zeros : Int) - n| := by
  have closest (multiple : Nat) :
      |(nearest n : Int) - n| ≤ |(multiple * (2 ^ surplus n : Nat) : Int) - n| := by
    simpa [nearest] using halfEven_closest (Nat.two_pow_pos (surplus n)) n multiple
  rcases Nat.lt_or_ge zeros (surplus n) with short | long
  · -- Such a number is below the least one with as many places as `n`.
    have wide : surplus n ≠ 0 := by omega
    have least := le_of_surplus wide
    have lower : m * 2 ^ zeros ≤ 2 ^ 52 * 2 ^ surplus n := by
      calc m * 2 ^ zeros ≤ 2 ^ 53 * 2 ^ (surplus n - 1) :=
            Nat.mul_le_mul held.le (Nat.pow_le_pow_right (by decide) (by omega))
        _ = 2 ^ 52 * 2 ^ surplus n := by
            rw [← Nat.pow_add, ← Nat.pow_add]
            congr 1
            omega
    refine (closest (2 ^ 52)).trans ?_
    zify at least lower
    push_cast
    rw [abs_sub_comm, abs_of_nonneg (by linarith)]
    exact le_abs.mpr (.inr (by linarith))
  · have multiple : m * 2 ^ zeros = m * 2 ^ (zeros - surplus n) * 2 ^ surplus n := by
      rw [Nat.mul_assoc, ← Nat.pow_add, Nat.sub_add_cancel long]
    have := closest (m * 2 ^ (zeros - surplus n))
    rw [← Int.natCast_mul, ← multiple] at this
    exact_mod_cast this

theorem halfEven_shifted {n : Nat} {zeros : Nat} (wide : 52 ≤ n.log2 + zeros) :
    halfEven (n * 2 ^ zeros) (2 ^ (n.log2 + zeros - 52)) * 2 ^ (n.log2 + zeros - 52) =
      nearest n * 2 ^ zeros := by
  rcases Nat.eq_zero_or_pos (surplus n) with none | long
  · -- All places that are dropped are zeros that were appended.
    have dropped : n.log2 + zeros - 52 ≤ zeros := by
      simp only [surplus] at none
      omega
    have appended : n * 2 ^ zeros =
        n * 2 ^ (zeros - (n.log2 + zeros - 52)) * 2 ^ (n.log2 + zeros - 52) := by
      rw [Nat.mul_assoc, ← Nat.pow_add, Nat.sub_add_cancel dropped]
    rw [nearest_of_surplus none]
    conv_lhs => rw [appended, halfEven_mul_self (Nat.two_pow_pos _), ← appended]
  · have places : n.log2 + zeros - 52 = surplus n + zeros := by
      rw [log2_of_surplus long.ne']
      omega
    rw [places, Nat.pow_add, halfEven_mul_right (Nat.two_pow_pos zeros), nearest, Nat.mul_assoc]

end Exchange.Number
