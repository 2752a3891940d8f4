import Mathlib
import Exchange.Proofs.Number.Equality
import Exchange.Proofs.Number.Nearest

/-! # Integers as doubles

The double of an integer stands for the nearest integer of 53 binary places. Its significand is
shifted to 53 places; of the places shifted out, two bits are kept that decide how it is rounded.
A double in its normal form is packed without loss, so two integers become equal doubles when their
nearest integers are equal.
-/

namespace Exchange.Number

open Float.Model Float.Model.UnpackedFloat

/-- A mantissa with its two bits says where `n / d` lies. -/
structure Residue (em : ExtendedMantissa) (n d : Nat) : Prop where
  mantissa : em.mantissa = n / d
  roundBit : em.roundBit = true ↔ d ≤ 2 * (n % d)
  stickyBit : em.stickyBit = true ↔ 2 * (n % d) ≠ 0 ∧ 2 * (n % d) ≠ d

namespace Residue

variable {em : ExtendedMantissa} {n d : Nat}

theorem exact (n : Nat) : Residue (.ofMantissaAndAccuracy n .exact) n 1 := by
  constructor <;> simp [ExtendedMantissa.ofMantissaAndAccuracy, Nat.mod_one]

theorem shiftRightOne (residue : Residue em n d) (pos : 0 < d) :
    Residue em.shiftRightOne n (d * 2) := by
  have rest : n % d < d := Nat.mod_lt n pos
  have split : n % (d * 2) = n % d + d * (n / d % 2) := Nat.mod_mul
  constructor
  · simp only [ExtendedMantissa.shiftRightOne, residue.mantissa, Nat.div_div_eq_div_mul]
  · simp only [ExtendedMantissa.shiftRightOne, residue.mantissa, bne_iff_ne, split]
    rcases Nat.mod_two_eq_zero_or_one (n / d) with even | odd
    · simp only [even]
      omega
    · simp only [odd]
      omega
  · simp only [ExtendedMantissa.shiftRightOne, Bool.or_eq_true, residue.roundBit,
      residue.stickyBit, split]
    rcases Nat.mod_two_eq_zero_or_one (n / d) with even | odd
    · simp only [even]
      omega
    · simp only [odd]
      omega

theorem shiftRight (residue : Residue em n d) (pos : 0 < d) (k : Nat) :
    Residue (em >>> k) n (d * 2 ^ k) := by
  induction k with
  | zero =>
      rw [Nat.pow_zero, Nat.mul_one]
      exact residue
  | succ k ih =>
      rw [Nat.pow_succ, ← Nat.mul_assoc]
      exact ih.shiftRightOne (Nat.mul_pos pos (Nat.two_pow_pos k))

theorem roundedMantissa (residue : Residue em n d) (pos : 0 < d) :
    em.roundedMantissa = halfEven n d := by
  have rest : n % d < d := Nat.mod_lt n pos
  obtain ⟨mantissa, roundBit, stickyBit⟩ := em
  obtain ⟨rfl, round, sticky⟩ := residue
  unfold halfEven
  cases roundBit <;> cases stickyBit <;>
    simp only [Bool.false_eq_true, false_iff, true_iff] at round sticky <;>
    simp only [ExtendedMantissa.roundedMantissa, ExtendedMantissa.accuracy,
      Accuracy.roundToNearestEven] <;>
    split_ifs <;> omega

end Residue

theorem residue_shiftRight (n k : Nat) :
    Residue (ExtendedMantissa.ofMantissaAndAccuracy n .exact >>> k) n (2 ^ k) := by
  have residue := (Residue.exact n).shiftRight Nat.one_pos k
  rwa [Nat.one_mul] at residue

theorem mantissa_shiftRight (n k : Nat) :
    (ExtendedMantissa.ofMantissaAndAccuracy n .exact >>> k).mantissa = n / 2 ^ k :=
  (residue_shiftRight n k).mantissa

theorem roundedMantissa_shiftRight (n k : Nat) :
    (ExtendedMantissa.ofMantissaAndAccuracy n .exact >>> k).roundedMantissa =
      halfEven n (2 ^ k) :=
  (residue_shiftRight n k).roundedMantissa (Nat.two_pow_pos k)

theorem targetExponent_eq (n : Nat) (exponent : Int) :
    Format.binary64.targetExponent (totalExponent n exponent) =
      max (n.log2 + exponent - 52) (-1074) := by
  simp only [Format.targetExponent, totalExponent, Format.mantissaBits, Format.minExponent]
  norm_num
  omega

theorem shiftToTargetExponent_eq {n k : Nat} {exponent : Int}
    (target : Format.binary64.targetExponent (totalExponent n exponent) = exponent + k) :
    shiftToTargetExponent Format.binary64 n exponent .exact =
      (ExtendedMantissa.ofMantissaAndAccuracy n .exact >>> k, exponent + k) := by
  have shift : (exponent + k - exponent).toNat = k := by omega
  simp only [shiftToTargetExponent, shiftToExponent, target, shift]

/-- Rounding shifts twice: to 53 places, and once more if the mantissa was rounded up to 54. -/
theorem roundWithAccuracy_eq {n k l : Nat} {exponent : Int} (sign : Sign)
    (first : Format.binary64.targetExponent (totalExponent n exponent) = exponent + k)
    (second : Format.binary64.targetExponent (totalExponent (halfEven n (2 ^ k)) (exponent + k)) =
      exponent + k + l)
    (pos : 0 < halfEven n (2 ^ k) / 2 ^ l) :
    roundWithAccuracy Format.binary64 sign n exponent .exact =
      .finite sign (halfEven n (2 ^ k) / 2 ^ l) (exponent + k + l) pos := by
  simp only [roundWithAccuracy, shiftToTargetExponent_eq first, roundedMantissa_shiftRight,
    shiftToTargetExponent_eq second, mantissa_shiftRight, pos.ne', ↓reduceDIte]

/-- A double taken apart is an integer, with a mantissa of 53 places. -/
inductive Stands : UnpackedFloat → Int → Prop where
  | zero (sign : Sign) : Stands (.zero sign) 0
  | finite (sign : Sign) (mantissa magnitude i : Nat) (pos : 0 < mantissa)
      (low : 2 ^ 52 ≤ mantissa) (high : mantissa < 2 ^ 53)
      (value : mantissa * 2 ^ i = magnitude * 2 ^ 52) :
      Stands (.finite sign mantissa (i - 52) pos) (sign.apply magnitude)

theorem Stands.of_eq {sign : Sign} {mantissa magnitude : Nat} {exponent : Int} {pos : 0 < mantissa}
    (i : Nat) (place : exponent = i - 52) (low : 2 ^ 52 ≤ mantissa) (high : mantissa < 2 ^ 53)
    (value : mantissa * 2 ^ i = magnitude * 2 ^ 52) :
    Stands (.finite sign mantissa exponent pos) (sign.apply magnitude) := by
  subst place
  exact .finite sign mantissa magnitude i pos low high value

theorem log2_mul_two_pow {n : Nat} (pos : 0 < n) (zeros : Nat) :
    (n * 2 ^ zeros).log2 = n.log2 + zeros := by
  rw [Nat.log2_eq_iff (Nat.mul_pos pos (Nat.two_pow_pos zeros)).ne']
  constructor
  · rw [Nat.pow_add]
    exact Nat.mul_le_mul_right _ (Nat.log2_self_le pos.ne')
  · rw [Nat.add_right_comm, Nat.pow_add]
    exact Nat.mul_lt_mul_of_pos_right Nat.lt_log2_self (Nat.two_pow_pos zeros)

theorem log2_mantissa {mantissa : Nat} (low : 2 ^ 52 ≤ mantissa) (high : mantissa < 2 ^ 53) :
    mantissa.log2 = 52 :=
  (Nat.log2_eq_iff (by omega)).mpr ⟨low, high⟩

theorem mantissa_bounds {n : Nat} (wide : 52 ≤ n.log2) :
    2 ^ 52 ≤ halfEven n (2 ^ (n.log2 - 52)) ∧ halfEven n (2 ^ (n.log2 - 52)) ≤ 2 ^ 53 := by
  have nonzero : n ≠ 0 := by
    rintro rfl
    simp at wide
  have pos := Nat.two_pow_pos (n.log2 - 52)
  have low : 2 ^ 52 ≤ n / 2 ^ (n.log2 - 52) := by
    rw [Nat.le_div_iff_mul_le pos, ← Nat.pow_add, Nat.add_sub_cancel' wide]
    exact Nat.log2_self_le nonzero
  have high : n / 2 ^ (n.log2 - 52) < 2 ^ 53 := by
    rw [Nat.div_lt_iff_lt_mul pos, ← Nat.pow_add,
      show 53 + (n.log2 - 52) = n.log2 + 1 by omega]
    exact Nat.lt_log2_self
  exact ⟨low.trans (le_halfEven _ _), (halfEven_le _ _).trans high⟩

/-- An integer with enough zeros behind its point is rounded to the nearest one. -/
theorem stands_roundWithAccuracy {n zeros : Nat} (sign : Sign) (pos : 0 < n)
    (wide : 52 ≤ n.log2 + zeros) :
    Stands (roundWithAccuracy Format.binary64 sign (n * 2 ^ zeros) (-zeros) .exact)
      (sign.apply (nearest n)) := by
  have places := log2_mul_two_pow pos zeros
  have value := halfEven_shifted wide
  have bounds := mantissa_bounds (places ▸ wide : 52 ≤ (n * 2 ^ zeros).log2)
  rw [places] at bounds
  have first : Format.binary64.targetExponent (totalExponent (n * 2 ^ zeros) (-zeros)) =
      -zeros + (n.log2 + zeros - 52 : Nat) := by
    rw [targetExponent_eq, places]
    omega
  have whole : halfEven (n * 2 ^ zeros) (2 ^ (n.log2 + zeros - 52)) * 2 ^ n.log2 =
      nearest n * 2 ^ 52 := by
    refine Nat.eq_of_mul_eq_mul_right (Nat.two_pow_pos zeros) ?_
    calc _ = halfEven (n * 2 ^ zeros) (2 ^ (n.log2 + zeros - 52)) * 2 ^ (n.log2 + zeros - 52) *
          2 ^ 52 := by
          rw [Nat.mul_assoc, Nat.mul_assoc, ← Nat.pow_add, ← Nat.pow_add, Nat.sub_add_cancel wide]
      _ = nearest n * 2 ^ 52 * 2 ^ zeros := by rw [value, Nat.mul_right_comm]
  rcases bounds.2.lt_or_eq with narrow | carried
  · rw [@roundWithAccuracy_eq _ _ 0 _ sign first
      (by rw [targetExponent_eq, log2_mantissa bounds.1 narrow]; omega) (by omega)]
    simp only [Nat.pow_zero, Nat.div_one]
    exact .of_eq n.log2 (by omega) bounds.1 narrow whole
  · -- Rounded up to 54 places, the mantissa is a power of two, and one more shift is exact.
    rw [@roundWithAccuracy_eq _ _ 1 _ sign first
      (by rw [targetExponent_eq, carried, Nat.log2_two_pow]; omega) (by omega)]
    refine .of_eq (n.log2 + 1) (by omega) (by omega) (by omega) ?_
    rw [← whole, carried, Nat.pow_succ 2 n.log2]
    omega

theorem sign_apply_ne_zero (sign : Sign) {magnitude : Nat} (pos : 0 < magnitude) :
    sign.apply magnitude ≠ 0 := by
  cases sign <;> simp only [Sign.apply] <;> omega

theorem sign_apply_inj {sign sign' : Sign} {magnitude magnitude' : Nat} (pos : 0 < magnitude)
    (same : sign.apply magnitude = sign'.apply magnitude') :
    sign = sign' ∧ magnitude = magnitude' := by
  cases sign <;> cases sign' <;> simp only [Sign.apply] at same <;> simp <;> omega

theorem mantissa_unique {mantissa mantissa' i j : Nat} (low : 2 ^ 52 ≤ mantissa)
    (high : mantissa < 2 ^ 53) (low' : 2 ^ 52 ≤ mantissa') (high' : mantissa' < 2 ^ 53)
    (same : mantissa * 2 ^ i = mantissa' * 2 ^ j) : mantissa = mantissa' ∧ i = j := by
  have places := congrArg Nat.log2 same
  rw [log2_mul_two_pow (by omega), log2_mul_two_pow (by omega), log2_mantissa low high,
    log2_mantissa low' high'] at places
  obtain rfl : i = j := by omega
  exact ⟨Nat.eq_of_mul_eq_mul_right (Nat.two_pow_pos i) same, rfl⟩

theorem unpackSign_packComponents {spec : Format} (sign : Sign) (exponent : BitVec spec.exponentBits)
    (mantissa : BitVec spec.mantissaBitsWithoutImplicit) :
    unpackSign (packComponents spec sign exponent mantissa) = sign.toBitVec := by
  apply BitVec.eq_of_getLsbD_eq
  intro i hi
  obtain rfl : i = 0 := by omega
  simp [unpackSign, packComponents, BitVec.getLsbD_append, BitVec.getElem_append]

theorem toNat_implicit_append (mantissa : BitVec 52) :
    (1#1 ++ mantissa).toNat = 2 ^ 52 + mantissa.toNat := by
  rw [BitVec.toNat_append, ← Nat.shiftLeft_add_eq_or_of_lt mantissa.isLt]
  rfl

theorem pack_finite (sign : Sign) {mantissa i : Nat} {pos : 0 < mantissa}
    (low : 2 ^ 52 ≤ mantissa) (high : mantissa < 2 ^ 53) (small : i < 1000) :
    UnpackedFloat.pack Format.binary64 (.finite sign mantissa (i - 52) pos) =
      packComponents Format.binary64 sign (.ofNat 11 (i + 1023)) (.ofNat 52 mantissa) := by
  have biased : ((i : Int) - 52 + 1023 + 52).toNat = i + 1023 := by omega
  have inRange : ¬2 ^ 11 ≤ i + 1023 + 1 := by omega
  change (if 2 ^ 11 ≤ ((i : Int) - 52 + 1023 + 52).toNat + 1 then _
    else if mantissa.log2 + 1 = 53 then
      packComponents Format.binary64 sign (.ofNat 11 ((i : Int) - 52 + 1023 + 52).toNat) _
    else _) = _
  rw [biased, if_neg inRange, log2_mantissa low high, if_pos rfl]

theorem unpack_packComponents (sign : Sign) {mantissa i : Nat} {pos : 0 < mantissa}
    (low : 2 ^ 52 ≤ mantissa) (high : mantissa < 2 ^ 53) (small : i < 1000) :
    UnpackedFloat.unpack Format.binary64
      (packComponents Format.binary64 sign (.ofNat 11 (i + 1023)) (.ofNat 52 mantissa)) =
      .finite sign mantissa (i - 52) pos := by
  have field : (BitVec.ofNat 11 (i + 1023)).toNat = i + 1023 := Nat.mod_eq_of_lt (by omega)
  have notGreatest : BitVec.ofNat 11 (i + 1023) ≠ -1#11 := fun same => by
    have value : i + 1023 = 2047 := field ▸ congrArg BitVec.toNat same
    omega
  have notLeast : BitVec.ofNat 11 (i + 1023) ≠ 0#11 := fun same => by
    have value : i + 1023 = 0 := field ▸ congrArg BitVec.toNat same
    omega
  have whole : (1#1 ++ BitVec.ofNat 52 mantissa).toNat = mantissa := by
    rw [toNat_implicit_append, BitVec.toNat_ofNat]
    omega
  have signed : Sign.ofBitVec sign.toBitVec = sign := by cases sign <;> rfl
  have place : ((i + 1023 : Nat) : Int) - (1023 + 52) = i - 52 := by omega
  rw [UnpackedFloat.unpack]
  simp only [unpackExponent_packComponents, unpackMantissa_packComponents,
    unpackSign_packComponents]
  change (if BitVec.ofNat 11 (i + 1023) = -1#11 then _
    else if BitVec.ofNat 11 (i + 1023) = 0#11 then _
    else UnpackedFloat.finite (Sign.ofBitVec sign.toBitVec)
      (1#1 ++ BitVec.ofNat 52 mantissa).toNat
      ((BitVec.ofNat 11 (i + 1023)).toNat - (1023 + 52)) _) = _
  rw [if_neg notGreatest, if_neg notLeast]
  simp only [whole, field, signed, place]

namespace Stands

variable {a b : UnpackedFloat} {x y : Int}

theorem neg (stands : Stands a x) : Stands a.neg (-x) := by
  cases stands with
  | zero sign => exact .zero (-sign)
  | finite sign mantissa magnitude i pos low high value =>
      cases sign with
      | positive => exact .finite .negative mantissa magnitude i pos low high value
      | negative =>
          have twice : -(Sign.negative.apply magnitude) = Sign.positive.apply magnitude :=
            Int.neg_neg _
          rw [twice]
          exact .finite .positive mantissa magnitude i pos low high value

theorem magnitude_pos {mantissa magnitude i : Nat} (pos : 0 < mantissa)
    (value : mantissa * 2 ^ i = magnitude * 2 ^ 52) : 0 < magnitude :=
  Nat.pos_of_mul_pos_right (value ▸ Nat.mul_pos pos (Nat.two_pow_pos i))

theorem sameDouble_iff (first : Stands a x) (second : Stands b y) : SameDouble a b ↔ x = y := by
  cases first with
  | zero sign =>
      cases second with
      | zero sign' => exact iff_of_true (.zero sign sign') rfl
      | finite sign' mantissa' magnitude' j pos' low' high' value' =>
          exact iff_of_false nofun (sign_apply_ne_zero sign' (magnitude_pos pos' value')).symm
  | finite sign mantissa magnitude i pos low high value =>
      cases second with
      | zero sign' =>
          exact iff_of_false nofun (sign_apply_ne_zero sign (magnitude_pos pos value))
      | finite sign' mantissa' magnitude' j pos' low' high' value' =>
          rw [SameDouble.finite_iff]
          constructor
          · rintro ⟨rfl, rfl, place⟩
            obtain rfl : i = j := by omega
            rw [Nat.eq_of_mul_eq_mul_right (by decide) (value.symm.trans value')]
          · intro same
            obtain ⟨rfl, rfl⟩ := sign_apply_inj (magnitude_pos pos value) same
            obtain ⟨rfl, rfl⟩ := mantissa_unique low high low' high' (value.trans value'.symm)
            exact ⟨rfl, rfl, rfl⟩

theorem exists_of_pos {n : Nat} (stands : Stands a n) (pos : 0 < n) :
    ∃ (mantissa : Nat) (posMantissa : 0 < mantissa),
      a = .finite .positive mantissa (n.log2 - 52) posMantissa ∧
        mantissa * 2 ^ n.log2 = n * 2 ^ 52 := by
  generalize same : (n : Int) = x at stands
  cases stands with
  | zero => omega
  | finite sign mantissa magnitude i posMantissa low high value =>
      obtain ⟨rfl, rfl⟩ := @sign_apply_inj .positive _ _ _ pos same
      have places := congrArg Nat.log2 value
      rw [log2_mul_two_pow posMantissa, log2_mul_two_pow pos, log2_mantissa low high] at places
      obtain rfl : i = n.log2 := by omega
      exact ⟨mantissa, posMantissa, rfl, value⟩

theorem unpack_pack (stands : Stands a x) (small : x.natAbs < 2 ^ 65) :
    (Float.Model.pack a).unpack = a := by
  cases stands with
  | zero sign => cases sign <;> rfl
  | finite sign mantissa magnitude i pos low high value =>
      have least : 2 ^ 52 * 2 ^ i ≤ 2 ^ 52 * magnitude := by
        rw [Nat.mul_comm _ magnitude, ← value]
        exact Nat.mul_le_mul_right _ low
      have bounded : magnitude < 2 ^ 65 := by
        cases sign <;> simpa [Sign.apply] using small
      have place : i < 65 := (Nat.pow_lt_pow_iff_right (by decide)).mp
        ((Nat.le_of_mul_le_mul_left least (by decide)).trans_lt bounded)
      change UnpackedFloat.unpack Format.binary64 (UnpackedFloat.pack Format.binary64 _) = _
      rw [pack_finite sign low high (by omega), unpack_packComponents sign low high (by omega)]

end Stands

theorem nearest_lt {n : Nat} (small : n < 2 ^ 64) : nearest n < 2 ^ 65 := by
  have closest : |(nearest n : Int) - n| ≤ n := by
    simpa using nearest_closest n 0 0 (by decide)
  rw [abs_le] at closest
  omega

/-- The rounded integer survives packing. -/
theorem stands_pack_roundWithAccuracy {n zeros : Nat} (sign : Sign) (pos : 0 < n)
    (small : n < 2 ^ 64) (wide : 52 ≤ n.log2 + zeros) :
    Stands (Float.Model.pack
      (roundWithAccuracy Format.binary64 sign (n * 2 ^ zeros) (-zeros) .exact)).unpack
      (sign.apply (nearest n)) := by
  have stands := stands_roundWithAccuracy sign pos wide
  rw [stands.unpack_pack]
  · exact stands
  · cases sign <;> simpa [Sign.apply] using nearest_lt small

theorem Stands.mul_one {a : UnpackedFloat} {n : Nat} (stands : Stands a n) (pos : 0 < n)
    (small : n < 2 ^ 64) :
    Stands (Float.Model.pack (UnpackedFloat.mul Format.binary64 a
      (.finite .positive (2 ^ 52) (-52) (by decide)))).unpack (nearest n) := by
  obtain ⟨mantissa, posMantissa, rfl, value⟩ := stands.exists_of_pos pos
  have few : n.log2 < 64 := (Nat.log2_lt pos.ne').mpr small
  have scaled : mantissa * 2 ^ 52 = n * 2 ^ (104 - n.log2) := by
    refine Nat.eq_of_mul_eq_mul_right (Nat.two_pow_pos n.log2) ?_
    calc mantissa * 2 ^ 52 * 2 ^ n.log2 = n * 2 ^ 52 * 2 ^ 52 := by rw [Nat.mul_right_comm, value]
      _ = n * 2 ^ (104 - n.log2) * 2 ^ n.log2 := by
        rw [Nat.mul_assoc, Nat.mul_assoc, ← Nat.pow_add, ← Nat.pow_add, Nat.sub_add_cancel (by omega)]
  have exponent : (n.log2 : Int) - 52 + -52 = -(104 - n.log2 : Nat) := by omega
  have product : UnpackedFloat.mul Format.binary64
      (.finite .positive mantissa (n.log2 - 52) posMantissa)
      (.finite .positive (2 ^ 52) (-52) (by decide)) =
      roundWithAccuracy Format.binary64 .positive (n * 2 ^ (104 - n.log2)) (-(104 - n.log2 : Nat))
        .exact := by
    rw [← scaled, ← exponent]
    rfl
  rw [product]
  exact stands_pack_roundWithAccuracy .positive pos small (by omega)

theorem stands_toFloat {n : Nat} (pos : 0 < n) (small : n < 2 ^ 53) :
    Stands n.toUInt64.toFloat.toModel.unpack n := by
  have log : n.log2 < 53 := (Nat.log2_lt pos.ne').mpr small
  have same : n.toUInt64.toNat = n := Nat.mod_eq_of_lt (by omega)
  have sign : compare (n : Int) 0 = .gt := Int.compare_eq_gt.mpr (by omega)
  have target : Format.binary64.targetExponent (totalExponent n 0) = n.log2 - 52 := by
    rw [targetExponent_eq]
    omega
  have zeros : (-((n.log2 : Int) - 52)).toNat = 52 - n.log2 := by omega
  have rounded : UnpackedFloat.ofUInt64 Format.binary64 n.toUInt64 =
      roundWithAccuracy Format.binary64 .positive (n * 2 ^ (52 - n.log2))
        (-(52 - n.log2 : Nat)) .exact := by
    simp only [UnpackedFloat.ofUInt64, UnpackedFloat.ofNat, UnpackedFloat.ofInt, same,
      UnpackedFloat.normalize, sign, Int.toNat_natCast, UnpackedFloat.round, target,
      UnpackedFloat.decreaseExponent, Nat.shiftLeft_eq, Int.zero_sub, zeros]
  have stands := @stands_pack_roundWithAccuracy n (52 - n.log2) .positive pos (by omega) (by omega)
  rw [← rounded, nearest_of_lt small] at stands
  exact stands

theorem stands_ofNat_of_lt {n : Nat} (pos : 0 < n) (small : n < 2 ^ 53) :
    Stands (Float.ofNat n).toModel.unpack n := by
  -- The conversion is that of a numeral, whose power of ten is looked up in a table.
  have fast : Float.ofNat n = n.toUInt64.toFloat * Float.ofBits 0x3FF0000000000000 := by
    change Float.ofScientific n false 0 = _
    unfold Float.ofScientific
    rw [dif_pos (by omega)]
    rfl
  have one : (Float.ofBits 0x3FF0000000000000).toModel.unpack =
      .finite .positive (2 ^ 52) (-52) (by decide) := by
    rfl
  rw [fast]
  change Stands (Float.Model.pack (UnpackedFloat.mul Format.binary64 n.toUInt64.toFloat.toModel.unpack
    (Float.ofBits 0x3FF0000000000000).toModel.unpack)).unpack n
  rw [one]
  have product := (stands_toFloat pos small).mul_one pos (by omega)
  rwa [nearest_of_lt small] at product

theorem stands_ofNat_of_le {n : Nat} (large : 2 ^ 53 ≤ n) (small : n < 2 ^ 64) :
    Stands (Float.ofNat n).toModel.unpack (nearest n) := by
  have slow : Float.ofNat n = Float.ofModel (Float.Model.ofScientific n 0) := by
    change Float.ofScientific n false 0 = _
    unfold Float.ofScientific
    rw [dif_neg (by omega)]
    rfl
  have rounded : UnpackedFloat.ofScientific Format.binary64 n 0 =
      roundWithAccuracy Format.binary64 .positive (n * 2 ^ 53) (-(53 : Nat)) .exact := by
    unfold UnpackedFloat.ofScientific
    rw [dif_neg (by omega), if_neg (by decide), if_neg (by simp only; omega), if_pos le_rfl]
    simp only [UnpackedFloat.mul, Nat.shiftLeft_eq, Int.toNat_zero, Nat.pow_zero, Nat.mul_one]
    rfl
  rw [slow]
  change Stands (Float.Model.pack (UnpackedFloat.ofScientific Format.binary64 n 0)).unpack _
  rw [rounded]
  exact stands_pack_roundWithAccuracy .positive (by omega) small (by omega)

theorem stands_ofNat {n : Nat} (small : n < 2 ^ 64) :
    Stands (Float.ofNat n).toModel.unpack (nearest n) := by
  rcases Nat.eq_zero_or_pos n with rfl | pos
  · exact .zero .positive
  · rcases Nat.lt_or_ge n (2 ^ 53) with short | long
    · rw [nearest_of_lt short]
      exact stands_ofNat_of_lt pos short
    · exact stands_ofNat_of_le long small

theorem stands_ofInt {n : Int} (small : n.natAbs < 2 ^ 64) :
    Stands (Float.ofInt n).toModel.unpack (nearestInt n) := by
  cases n with
  | ofNat n => exact stands_ofNat small
  | negSucc n =>
      have magnitude := stands_ofNat (n := n + 1) small
      change Stands (Float.Model.pack (Float.ofNat (n + 1)).toModel.unpack.neg).unpack
        (-nearest (n + 1))
      rw [magnitude.neg.unpack_pack]
      · exact magnitude.neg
      · simpa using nearest_lt (n := n + 1) small

theorem ofInt_beq_ofInt {m n : Int} (small : m.natAbs < 2 ^ 64) (small' : n.natAbs < 2 ^ 64) :
    (Float.ofInt m == Float.ofInt n) = true ↔ nearestInt m = nearestInt n := by
  rw [beq_iff_sameDouble]
  exact (stands_ofInt small).sameDouble_iff (stands_ofInt small')

end Exchange.Number
