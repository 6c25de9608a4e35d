import Mathlib.Algebra.Order.Field.Power
import Mathlib.Data.Int.Log
import Mathlib.Data.Rat.Cast.Order
import Mathlib.Data.Rat.Floor
import Mathlib.Tactic.NormNum
import Mathlib.Tactic.Positivity
import Mathlib.Tactic.Ring
import Skirmish.Number.Binary

/-!
# Rounding depends on the number alone

A quotient is rounded by integer divisions, so that the outcome could depend on how the quotient is
written. It does not (`Format.round_congr`), and a quotient that a format can hold is rounded to
itself (`Format.round_eq_some`).

## Shape of the proof

Everything that is computed from a quotient is a function of its value: the integer nearest to it
(`roundHalfEven_congr`), because a common factor can be taken out of every comparison, and its
leading power of two (`floorLog2_eq_log`), which is the integer logarithm of the value.
-/

namespace Skirmish.Number

/-! ## The nearest integer -/

/-- A common factor of both sides does not count. -/
theorem roundHalfEven_mul_left {k : Nat} (hk : 0 < k) (num den : Nat) :
    roundHalfEven (k * num) (k * den) = roundHalfEven num den := by
  have hlt : 2 * (k * (num % den)) < k * den ↔ 2 * (num % den) < den := by
    rw [Nat.mul_left_comm]
    exact Nat.mul_lt_mul_left hk
  have heq : 2 * (k * (num % den)) = k * den ↔ 2 * (num % den) = den := by
    rw [Nat.mul_left_comm]
    exact Nat.mul_right_inj hk.ne'
  simp only [roundHalfEven, Nat.mul_div_mul_left _ _ hk, Nat.mul_mod_mul_left, hlt, heq]

variable {num den num' den' : Nat}

/-- Equal quotients are nearest to the same integer. -/
theorem roundHalfEven_congr (hden : 0 < den) (hden' : 0 < den') (h : num * den' = num' * den) :
    roundHalfEven num den = roundHalfEven num' den' := by
  rw [← roundHalfEven_mul_left hden' num den, ← roundHalfEven_mul_left hden num' den',
    Nat.mul_comm den' num, h, Nat.mul_comm num' den, Nat.mul_comm den' den]

/-- An integer is nearest to itself. -/
theorem roundHalfEven_mul (m : Nat) (hden : 0 < den) : roundHalfEven (m * den) den = m := by
  simp only [roundHalfEven, Nat.mul_mod_left, Nat.mul_div_cancel m hden]
  exact if_pos (Or.inl (by omega))

/-! ## The leading power of two -/

/-- A power of two as the quotient that integer divisions make of it. -/
theorem two_zpow_eq_div (l : Int) :
    (2 : ℚ) ^ l = (Nat.pow 2 l.toNat : Nat) / (Nat.pow 2 (-l).toNat : Nat) := by
  simp only [Nat.pow_eq, Nat.cast_pow, Nat.cast_ofNat]
  rw [← zpow_natCast, ← zpow_natCast, ← zpow_sub₀ (by norm_num)]
  congr 1
  omega

theorem two_pow_pos (n : Nat) : 0 < Nat.pow 2 n := Nat.two_pow_pos n

/-- Comparing with a power of two without leaving the integers. -/
theorem mul_two_pow_lt_iff (hden : 0 < den) (l : Int) :
    num * Nat.pow 2 (-l).toNat < den * Nat.pow 2 l.toNat ↔ (num : ℚ) / den < 2 ^ l := by
  have hden' : (0 : ℚ) < den := Nat.cast_pos.mpr hden
  have hpow : (0 : ℚ) < (Nat.pow 2 (-l).toNat : Nat) := Nat.cast_pos.mpr (two_pow_pos _)
  rw [two_zpow_eq_div, div_lt_div_iff₀ hden' hpow, ← Nat.cast_mul, ← Nat.cast_mul, Nat.cast_lt,
    Nat.mul_comm den]

/-- The binary logarithm is at least `l` exactly from `2 ^ l` on. -/
theorem le_log_iff {x : ℚ} (hx : 0 < x) (l : Int) : l ≤ Int.log 2 x ↔ 2 ^ l ≤ x :=
  mod_cast (Int.zpow_le_iff_le_log (b := 2) (by norm_num) hx).symm

/-- The binary logarithm is less than `l` exactly below `2 ^ l`. -/
theorem log_lt_iff {x : ℚ} (hx : 0 < x) (l : Int) : Int.log 2 x < l ↔ x < 2 ^ l :=
  mod_cast (Int.lt_zpow_iff_log_lt (b := 2) (by norm_num) hx).symm

/-- The leading power of two of a quotient is the integer logarithm of its value. -/
theorem floorLog2_eq_log (hnum : 0 < num) (hden : 0 < den) :
    floorLog2 num den = Int.log 2 ((num : ℚ) / den) := by
  have hnum' : (0 : ℚ) < num := Nat.cast_pos.mpr hnum
  have hden' : (0 : ℚ) < den := Nat.cast_pos.mpr hden
  have hvalue : (0 : ℚ) < (num : ℚ) / den := div_pos hnum' hden'
  have hnumLow : (2 : ℚ) ^ num.log2 ≤ num := mod_cast Nat.log2_self_le hnum.ne'
  have hnumHigh : (num : ℚ) < 2 ^ (num.log2 + 1) := mod_cast Nat.lt_log2_self
  have hdenLow : (2 : ℚ) ^ den.log2 ≤ den := mod_cast Nat.log2_self_le hden.ne'
  have hdenHigh : (den : ℚ) < 2 ^ (den.log2 + 1) := mod_cast Nat.lt_log2_self
  -- The quotient of the leading powers is the right one or one step too large.
  have hlow : (2 : ℚ) ^ ((num.log2 : Int) - den.log2 - 1) ≤ (num : ℚ) / den := by
    rw [le_div_iff₀ hden']
    refine le_trans (mul_le_mul_of_nonneg_left hdenHigh.le (by positivity)) ?_
    rw [← zpow_natCast, ← zpow_add₀ (by norm_num)]
    refine le_trans (le_of_eq ?_) hnumLow
    rw [← zpow_natCast]
    congr 1
    push_cast
    ring
  have hhigh : (num : ℚ) / den < 2 ^ ((num.log2 : Int) - den.log2 + 1) := by
    rw [div_lt_iff₀ hden']
    refine lt_of_lt_of_le hnumHigh (le_trans (le_of_eq ?_)
      (mul_le_mul_of_nonneg_left hdenLow (by positivity)))
    rw [← zpow_natCast, ← zpow_natCast, ← zpow_add₀ (by norm_num)]
    congr 1
    push_cast
    ring
  rw [← le_log_iff hvalue] at hlow
  rw [← log_lt_iff hvalue] at hhigh
  simp only [floorLog2, mul_two_pow_lt_iff hden, ← log_lt_iff hvalue]
  split <;> omega

/-! ## Rounding to a format -/

/-- **Equal quotients are rounded to the same number.** -/
theorem Format.round_congr (f : Format) (hnum : 0 < num) (hden : 0 < den) (hnum' : 0 < num')
    (hden' : 0 < den') (h : (num : ℚ) / den = num' / den') :
    f.round num den = f.round num' den' := by
  have hproducts : num * den' = num' * den := by
    rw [div_eq_div_iff (Nat.cast_pos.mpr hden).ne' (Nat.cast_pos.mpr hden').ne'] at h
    exact_mod_cast h
  have hlog : floorLog2 num den = floorLog2 num' den' := by
    rw [floorLog2_eq_log hnum hden, floorLog2_eq_log hnum' hden', h]
  simp only [round, hlog]
  generalize max f.minExponent (floorLog2 num' den' - (f.precision - 1)) = e
  have hround : roundHalfEven (num * Nat.pow 2 (-e).toNat) (den * Nat.pow 2 e.toNat) =
      roundHalfEven (num' * Nat.pow 2 (-e).toNat) (den' * Nat.pow 2 e.toNat) := by
    refine roundHalfEven_congr (Nat.mul_pos hden (two_pow_pos _))
      (Nat.mul_pos hden' (two_pow_pos _)) ?_
    rw [Nat.mul_mul_mul_comm, hproducts, Nat.mul_mul_mul_comm]
  rw [hround]

namespace Magnitude

/-- What a magnitude is worth. -/
def value (x : Magnitude) : ℚ := x.mantissa * 2 ^ x.exponent

theorem den_pos (x : Magnitude) : 0 < x.den := two_pow_pos _

theorem num_pos {x : Magnitude} (h : 0 < x.mantissa) : 0 < x.num := Nat.mul_pos h (two_pow_pos _)

/-- Numerator and denominator together are the value. -/
theorem num_div_den (x : Magnitude) : (x.num : ℚ) / x.den = x.value := by
  rw [value, two_zpow_eq_div, num, den, Nat.cast_mul, mul_div_assoc]

theorem value_pos {x : Magnitude} (h : 0 < x.mantissa) : 0 < x.value := by
  have : (0 : ℚ) < x.mantissa := Nat.cast_pos.mpr h
  rw [value]
  positivity

/-- The leading power of two of a magnitude. -/
theorem floorLog2_eq {x : Magnitude} (h : 0 < x.mantissa) :
    floorLog2 x.num x.den = x.mantissa.log2 + x.exponent := by
  have hlow : (2 : ℚ) ^ x.mantissa.log2 ≤ x.mantissa := mod_cast Nat.log2_self_le h.ne'
  have hhigh : (x.mantissa : ℚ) < 2 ^ (x.mantissa.log2 + 1) := mod_cast Nat.lt_log2_self
  rw [floorLog2_eq_log (num_pos h) x.den_pos, num_div_den]
  refine le_antisymm (Int.lt_add_one_iff.mp ((log_lt_iff (value_pos h) _).mpr ?_))
    ((le_log_iff (value_pos h) _).mpr ?_)
  · rw [value, add_right_comm, zpow_add₀ (by norm_num)]
    exact mul_lt_mul_of_pos_right (by exact_mod_cast hhigh) (by positivity)
  · rw [value, zpow_add₀ (by norm_num)]
    exact mul_le_mul_of_nonneg_right (by exact_mod_cast hlow) (by positivity)

end Magnitude

/-- Whether a magnitude is a positive number of a format, with the mantissa that it has there: one of
full width, unless the exponent is the smallest. -/
structure Format.Holds (f : Format) (x : Magnitude) : Prop where
  pos : 0 < x.mantissa
  lt : x.mantissa < 2 ^ f.precision
  low : f.minExponent ≤ x.exponent
  normal : 2 ^ (f.precision - 1) ≤ x.mantissa ∨ x.exponent = f.minExponent
  high : x.mantissa.log2 + x.exponent < f.overflow

/-- **A quotient that is a number of the format is rounded to it.** -/
theorem Format.round_eq_some {f : Format} {x : Magnitude} (holds : f.Holds x) (hnum : 0 < num)
    (hden : 0 < den) (h : (num : ℚ) / den = x.value) : f.round num den = some x := by
  rw [f.round_congr hnum hden (Magnitude.num_pos holds.pos) x.den_pos (h.trans x.num_div_den.symm)]
  obtain ⟨mantissa, exponent⟩ := x
  obtain ⟨hpos, hlt, hlow, hnormal, hhigh⟩ := holds
  simp only at hpos hlt hlow hnormal hhigh
  have hlog : mantissa.log2 < f.precision := (Nat.log2_lt hpos.ne').mpr hlt
  -- The exponent at which the mantissa has its full width is the one that it has already.
  have hexponent : max f.minExponent ((mantissa.log2 : Int) + exponent - (f.precision - 1)) =
      exponent := by
    rcases hnormal with hwide | hsmallest
    · have : f.precision - 1 ≤ mantissa.log2 := (Nat.le_log2 hpos.ne').mpr hwide
      have : (mantissa.log2 : Int) = f.precision - 1 := by omega
      rw [this, add_sub_cancel_left]
      exact max_eq_right hlow
    · rw [hsmallest]
      exact max_eq_left (by omega)
  have hmantissa : roundHalfEven
      (mantissa * Nat.pow 2 exponent.toNat * Nat.pow 2 (-exponent).toNat)
      (Nat.pow 2 (-exponent).toNat * Nat.pow 2 exponent.toNat) = mantissa := by
    rw [Nat.mul_assoc, Nat.mul_comm (Nat.pow 2 (-exponent).toNat)]
    exact roundHalfEven_mul mantissa (Nat.mul_pos (two_pow_pos _) (two_pow_pos _))
  have hlog2 := Magnitude.floorLog2_eq (x := ⟨mantissa, exponent⟩) hpos
  simp only [Magnitude.num, Magnitude.den] at hlog2
  simp only [round, Magnitude.num, Magnitude.den, hlog2, hexponent, hmantissa]
  exact if_neg fun hover => absurd hover.2 (not_le.mpr hhigh)

end Skirmish.Number
