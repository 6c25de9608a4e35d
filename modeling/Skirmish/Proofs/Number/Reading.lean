import Skirmish.Number.Shortest
import Skirmish.Proofs.Number.Rounding
import Skirmish.Proofs.Number.Single

/-!
# The shortest decimal reads back

A decimal is read by its value alone: how many digits it has and where its exponent puts them makes
no difference (`Decimal.toSingle?_congr`). A decimal that is worth as much as a finite number is read
as that number (`Decimal.toSingle?_eq_some`), since neither of the two roundings changes it. So the
search for the shortest decimal, which tests each candidate and falls back on the number itself,
always ends at a decimal that reads back (`toSingle?_shortest`).
-/

namespace Skirmish.Number

/-! ## Single precision numbers -/

namespace Single

variable {x : Single}

/-- A finite number that is not zero is one of its format. -/
theorem holds_magnitude (finite : isFinite x = true) (nonzero : unsignedBits x ≠ 0) :
    binary32.Holds (magnitude x) := by
  have hlt : unsignedBits x < 0x7f800000 := of_decide_eq_true finite
  rcases Nat.lt_or_ge (unsignedBits x) leadingBit with h | h
  · rw [magnitude_of_lt h]
    have hlog : (unsignedBits x).log2 < 23 := (Nat.log2_lt nonzero).mpr h
    simp only [leadingBit] at h
    refine ⟨Nat.pos_of_ne_zero nonzero, ?_, le_rfl, Or.inr rfl, ?_⟩ <;> simp only [binary32] <;> omega
  · rw [magnitude_of_le h]
    simp only [leadingBit] at h ⊢
    have hlog : (unsignedBits x % 0x800000 + 0x800000).log2 < 24 :=
      (Nat.log2_lt (by omega)).mpr (by omega)
    refine ⟨?_, ?_, ?_, Or.inl ?_, ?_⟩ <;> simp only [binary32] <;> omega

end Single

/-- Single precision holds no number below its least one. -/
theorem Format.Holds.le_value {x : Magnitude} (holds : binary32.Holds x) :
    (2 : ℚ) ^ (-149 : Int) ≤ x.value := by
  have hone : (1 : ℚ) ≤ x.mantissa := mod_cast holds.pos
  have hpow : (2 : ℚ) ^ (-149 : Int) ≤ 2 ^ x.exponent :=
    zpow_le_zpow_right₀ (by norm_num) holds.low
  rw [Magnitude.value]
  exact hpow.trans (le_mul_of_one_le_left (by positivity) hone)

/-- Single precision holds no number that overflows. -/
theorem Format.Holds.value_lt {x : Magnitude} (holds : binary32.Holds x) :
    x.value < 2 ^ (128 : Int) := by
  rw [← log_lt_iff (Magnitude.value_pos holds.pos), ← Magnitude.num_div_den,
    ← floorLog2_eq_log (Magnitude.num_pos holds.pos) (Magnitude.den_pos _),
    Magnitude.floorLog2_eq holds.pos]
  exact holds.high

/-- A number that single precision can hold, in double precision. -/
def Magnitude.widened (x : Magnitude) : Magnitude where
  mantissa := x.mantissa * 2 ^ (52 - x.mantissa.log2)
  exponent := x.exponent - (52 - x.mantissa.log2 : Nat)

/-- Widening a mantissa does not change the value. -/
theorem Magnitude.value_widened (x : Magnitude) : x.widened.value = x.value := by
  simp only [value, widened]
  push_cast
  rw [zpow_sub₀ (by norm_num), zpow_natCast]
  field_simp

/-- Double precision holds all numbers of single precision. -/
theorem Format.Holds.widened {x : Magnitude} (holds : binary32.Holds x) :
    binary64.Holds x.widened := by
  obtain ⟨hpos, hlt, hlow, -, hhigh⟩ := holds
  have hlog : x.mantissa.log2 < 24 := (Nat.log2_lt hpos.ne').mpr hlt
  have hwide : x.mantissa.log2 + (52 - x.mantissa.log2) = 52 := by omega
  have hne : x.mantissa * 2 ^ (52 - x.mantissa.log2) ≠ 0 := by positivity
  have hmantissa : (x.mantissa * 2 ^ (52 - x.mantissa.log2)).log2 = 52 := by
    rw [Nat.log2_eq_iff hne]
    constructor
    · calc 2 ^ 52 = 2 ^ x.mantissa.log2 * 2 ^ (52 - x.mantissa.log2) := by rw [← pow_add, hwide]
        _ ≤ _ := Nat.mul_le_mul_right _ (Nat.log2_self_le hpos.ne')
    · calc _ < 2 ^ (x.mantissa.log2 + 1) * 2 ^ (52 - x.mantissa.log2) :=
          Nat.mul_lt_mul_of_pos_right Nat.lt_log2_self (by positivity)
        _ = 2 ^ 53 := by rw [← pow_add, add_right_comm, hwide]
  simp only [binary32] at hlow hhigh
  refine ⟨Nat.pos_of_ne_zero hne, (Nat.log2_lt hne).mp ?_, ?_, Or.inl ((Nat.le_log2 hne).mp ?_), ?_⟩
  all_goals simp only [Magnitude.widened, binary64, hmantissa]; omega

/-! ## Decimals -/

namespace Decimal

/-- What a decimal is worth, apart from its sign. -/
def value (d : Decimal) : ℚ := d.significand * 10 ^ d.exponent

theorem den_pos (d : Decimal) : 0 < d.den := Nat.pow_pos (by norm_num)

theorem num_pos {d : Decimal} (h : 0 < d.significand) : 0 < d.num :=
  Nat.mul_pos h (Nat.pow_pos (by norm_num))

theorem value_pos {d : Decimal} (h : 0 < d.significand) : 0 < d.value := by
  have : (0 : ℚ) < d.significand := Nat.cast_pos.mpr h
  rw [value]
  positivity

/-- A decimal is zero exactly when its digits are. -/
theorem value_eq_zero_iff {d : Decimal} : d.value = 0 ↔ d.significand = 0 := by
  rw [value, mul_eq_zero, or_iff_left (by positivity), Nat.cast_eq_zero]

/-- Numerator and denominator together are the value. -/
theorem num_div_den (d : Decimal) : (d.num : ℚ) / d.den = d.value := by
  have hpow : (10 : ℚ) ^ d.exponent = 10 ^ d.exponent.toNat / 10 ^ (-d.exponent).toNat := by
    rw [← zpow_natCast, ← zpow_natCast, ← zpow_sub₀ (by norm_num)]
    congr 1
    omega
  rw [value, hpow, num, den]
  simp only [Nat.pow_eq, Nat.cast_mul, Nat.cast_pow, Nat.cast_ofNat, mul_div_assoc]

/-- The number of digits before the point is a matter of the value. -/
theorem exponent_add_digitCount_le_iff {d : Decimal} (h : 0 < d.significand) (top : Int) :
    d.exponent + digitCount d.significand ≤ top ↔ d.value < 10 ^ top := by
  have hvalue : d.value < 10 ^ top ↔ (d.significand : ℚ) < 10 ^ (top - d.exponent) := by
    rw [value, zpow_sub₀ (by norm_num), lt_div_iff₀ (by positivity)]
  rw [hvalue]
  -- Below 1 no decimal with a digit fits; from there on digits are counted by powers of ten.
  rcases lt_or_ge (top - d.exponent) 1 with hsmall | hlarge
  · have hone : (1 : ℚ) ≤ d.significand := mod_cast h
    have hpow : (10 : ℚ) ^ (top - d.exponent) ≤ 1 :=
      zpow_le_one_of_nonpos₀ (by norm_num) (by omega)
    have hdigits : 0 < digitCount d.significand := Nat.length_toDigits_pos
    exact iff_of_false (by omega) (not_lt.mpr (hpow.trans hone))
  · obtain ⟨k, hk⟩ := Int.eq_ofNat_of_zero_le (show 0 ≤ top - d.exponent by omega)
    have hcount := Nat.length_toDigits_le_iff (b := 10) (n := d.significand) (k := k)
      (by norm_num) (by omega)
    rw [hk]
    rw [zpow_natCast]
    have hcast : (d.significand : ℚ) < 10 ^ k ↔ d.significand < 10 ^ k := by exact_mod_cast Iff.rfl
    rw [hcast, ← hcount, digitCount]
    omega

/-- **Decimals of equal value and sign are read alike.** -/
theorem toSingle?_congr {d d' : Decimal} (sign : d.negative = d'.negative)
    (value : d.value = d'.value) : d.toSingle? = d'.toSingle? := by
  rcases Nat.eq_zero_or_pos d.significand with hzero | hpos
  · have hzero' : d'.significand = 0 := by
      rw [← value_eq_zero_iff, ← value, value_eq_zero_iff, hzero]
    rw [toSingle?, toSingle?, if_pos (Or.inl hzero), if_pos (Or.inl hzero'), sign]
  · have hpos' : 0 < d'.significand := by
      rw [Nat.pos_iff_ne_zero, ne_eq, ← value_eq_zero_iff, ← value]
      exact (value_pos hpos).ne'
    have htop : d.exponent + digitCount d.significand = d'.exponent + digitCount d'.significand := by
      refine le_antisymm ?_ ?_
      · rw [exponent_add_digitCount_le_iff hpos, value, ← exponent_add_digitCount_le_iff hpos']
      · rw [exponent_add_digitCount_le_iff hpos', ← value, ← exponent_add_digitCount_le_iff hpos]
    have hround : binary64.round d.num d.den = binary64.round d'.num d'.den :=
      binary64.round_congr (num_pos hpos) d.den_pos (num_pos hpos') d'.den_pos
        (by rw [num_div_den, num_div_den, value])
    simp only [toSingle?, hpos.ne', hpos'.ne', htop, hround, sign]

/-- A decimal that is worth as much as a number of single precision does not come near the bounds
beyond which powers of ten are not written out. -/
theorem within_bounds {d : Decimal} {x : Magnitude} (holds : binary32.Holds x)
    (hpos : 0 < d.significand) (value : d.value = x.value) :
    ¬d.exponent + digitCount d.significand < -400 ∧
      ¬400 < d.exponent + digitCount d.significand := by
  constructor
  · rw [← Int.le_sub_one_iff, exponent_add_digitCount_le_iff hpos, value, not_lt]
    refine le_trans ?_ holds.le_value
    calc (10 : ℚ) ^ (-400 - 1 : Int) ≤ 10 ^ (-149 : Int) :=
        zpow_le_zpow_right₀ (by norm_num) (by norm_num)
      _ ≤ 2 ^ (-149 : Int) := by
        rw [zpow_neg, zpow_neg]
        exact inv_anti₀ (by positivity) (by norm_num)
  · rw [not_lt, exponent_add_digitCount_le_iff hpos, value]
    refine holds.value_lt.trans ?_
    calc (2 : ℚ) ^ (128 : Int) < 10 ^ (128 : Int) := by norm_num
      _ ≤ 10 ^ (400 : Int) := zpow_le_zpow_right₀ (by norm_num) (by norm_num)

/-- **A decimal that is worth as much as a finite number is read as the number.** -/
theorem toSingle?_eq_some {d : Decimal} {x : Single} (finite : Single.isFinite x = true)
    (sign : d.negative = Single.isNegative x) (value : d.value = (Single.magnitude x).value) :
    d.toSingle? = some x := by
  -- Zero has no leading bit and is not rounded at all.
  by_cases hzero : Single.unsignedBits x = 0
  · have hsignificand : d.significand = 0 := by
      rw [← value_eq_zero_iff, value, Magnitude.value, Single.magnitude, hzero]
      simp [Single.leadingBit]
    rw [toSingle?, if_pos (Or.inl hsignificand), sign, ← hzero, Single.ofBits_unsignedBits]
  · have holds := Single.holds_magnitude finite hzero
    have hpos : 0 < d.significand := by
      rw [Nat.pos_iff_ne_zero, ne_eq, ← value_eq_zero_iff, value]
      exact (Magnitude.value_pos holds.pos).ne'
    obtain ⟨hnotSmall, hnotLarge⟩ := within_bounds holds hpos value
    -- The double is exact, and so is the narrowing of it.
    have hdouble : binary64.round d.num d.den = some (Single.magnitude x).widened :=
      Format.round_eq_some holds.widened (num_pos hpos) d.den_pos
        (by rw [num_div_den, value, Magnitude.value_widened])
    have hsingle : binary32.round (Single.magnitude x).widened.num
        (Single.magnitude x).widened.den = some (Single.magnitude x) :=
      Format.round_eq_some holds (Magnitude.num_pos holds.widened.pos) (Magnitude.den_pos _)
        (by rw [Magnitude.num_div_den, Magnitude.value_widened])
    rw [toSingle?, if_neg (not_or.mpr ⟨hpos.ne', hnotSmall⟩), if_neg hnotLarge, hdouble,
      Option.map_some, narrow, if_neg holds.widened.pos.ne', hsingle]
    simp only
    rw [sign, Single.ofMagnitude_magnitude]

end Decimal

/-! ## The search -/

/-- The decimal on which the search for the shortest one falls back is worth as much as the
number. -/
theorem value_exact (x : Magnitude) (negative : Bool) :
    (Decimal.mk negative (x.num * Nat.pow 5 (-x.exponent).toNat) (min x.exponent 0)).value =
      x.value := by
  simp only [Decimal.value, Magnitude.value, Magnitude.num, Nat.pow_eq, Nat.cast_mul, Nat.cast_pow,
    Nat.cast_ofNat]
  rcases le_total 0 x.exponent with h | h
  · have hexponent : (x.exponent.toNat : Int) = x.exponent := Int.toNat_of_nonneg h
    rw [min_eq_right h, Int.toNat_of_nonpos (Int.neg_nonpos_of_nonneg h), zpow_zero, pow_zero, mul_one,
      mul_one, ← zpow_natCast, hexponent]
  · have hexponent : ((-x.exponent).toNat : Int) = -x.exponent :=
      Int.toNat_of_nonneg (Int.neg_nonneg_of_nonpos h)
    rw [min_eq_left h, Int.toNat_of_nonpos h, pow_zero, mul_one, ← zpow_natCast, hexponent, mul_assoc,
      zpow_neg, ← div_eq_inv_mul, ← div_zpow]
    norm_num

/-- **The shortest decimal of a finite number reads back.** -/
theorem toSingle?_shortest {x : Single} (finite : Single.isFinite x = true) :
    (shortest x).toSingle? = some x := by
  simp only [shortest]
  generalize hfound : (gridExponents _).findSome? _ = found
  cases found with
  | none =>
    exact Decimal.toSingle?_eq_some finite rfl (value_exact _ _)
  | some d =>
    obtain ⟨e, -, hd⟩ := List.exists_of_findSome?_eq_some hfound
    have hreads := List.find?_some hd
    exact of_decide_eq_true hreads

end Skirmish.Number
