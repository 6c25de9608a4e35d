import Skirmish.Number.TotalOrder
import Skirmish.Proofs.Number.Single

/-!
# The rank of a number is its position in the total order

`Before` is the total order of IEEE 754. Numbers are in it as the comparison of the language has them,
and the negative zero comes before the positive one. A NaN is not compared, so its place is a matter of
its bits: the negative ones come before all numbers and the positive ones behind them. Numbers are ranked
in this order (`rank_lt_iff`), and different numbers have different ranks (`rank_eq_iff`), so that any two
numbers are in order (`before_trichotomy`).

## Shape of the proof

The two kinds of NaN are the two ends of the ranks (`isNegativeNaN_iff`, `isPositiveNaN_iff`). Between
them the rank is the place of a number but for the two zeros (`rank_lt_iff_of_numbers`). That the rank
can be computed by turning bits over is `rank_eq_toInt`. A NaN that arises is a negative one
(`not_isPositiveNaN_binary`), so it comes first.
-/

namespace Skirmish.Number

open Single

variable {x y : Single}

/-- Whether it is a NaN whose sign bit is set. -/
def Single.IsNegativeNaN (x : Single) : Prop := x.isNaN = true ∧ x.isNegative = true

/-- Whether it is a NaN whose sign bit is not set. -/
def Single.IsPositiveNaN (x : Single) : Prop := x.isNaN = true ∧ x.isNegative = false

/-- Whether a number comes before another one in the total order. -/
inductive Before (x y : Single) : Prop where
  /-- Of two numbers the smaller one comes first. -/
  | smaller (less : x < y)
  /-- Of the two zeros the negative one comes first. -/
  | zeros (negative : x = -0) (positive : y = 0)
  | negativeNaN (first : x.IsNegativeNaN) (second : ¬y.IsNegativeNaN)
  | positiveNaN (first : ¬x.IsPositiveNaN) (second : y.IsPositiveNaN)
  /-- Two NaNs of one sign are in the order of their bits, the negative ones backwards. -/
  | negativeBits (first : x.IsNegativeNaN) (second : y.IsNegativeNaN)
      (bits : y.unsignedBits < x.unsignedBits)
  | positiveBits (first : x.IsPositiveNaN) (second : y.IsPositiveNaN)
      (bits : x.unsignedBits < y.unsignedBits)

/-- A number with a negative sign ranks below zero, by its bits. -/
theorem rank_of_negative (h : isNegative x = true) : rank x = -(unsignedBits x : Int) - 1 :=
  if_pos h

theorem rank_of_positive (h : isNegative x = false) : rank x = unsignedBits x :=
  if_neg (Bool.eq_false_iff.mp h)

/-! ## The rank in terms of the bits -/

/-- An unsigned word read as a signed one. -/
theorem toInt_toInt32 (n : UInt32) :
    n.toInt32.toInt = if n.toNat < 0x80000000 then (n.toNat : Int) else n.toNat - 0x100000000 := by
  have hsigned : n.toInt32.toInt = n.toBitVec.toInt := rfl
  rw [hsigned, BitVec.toInt_eq_toNat_cond]
  simp only [UInt32.toNat_toBitVec]
  split <;> split <;> omega

/-- Turning over all bits but the sign. -/
theorem toNat_xor_mask (x : Single) : (x.bits ^^^ 0x7fffffff).toNat =
    x.bits.toNat / 0x80000000 * 0x80000000 + (0x7fffffff - unsignedBits x) := by
  have hnat : (x.bits ^^^ 0x7fffffff).toNat = x.bits.toNat ^^^ 0x7fffffff := UInt32.toNat_xor _ _
  have hdiv : (x.bits.toNat ^^^ 0x7fffffff) / 2 ^ 31 = x.bits.toNat / 2 ^ 31 := by
    rw [Nat.xor_div_two_pow]
    exact Nat.xor_zero _
  have hmod : (x.bits.toNat ^^^ 0x7fffffff) % 2 ^ 31 = 0x7fffffff - unsignedBits x := by
    have hnot : (~~~BitVec.ofNat 31 (unsignedBits x)).toNat = _ := BitVec.toNat_not
    rw [← BitVec.xor_allOnes, BitVec.toNat_xor, BitVec.toNat_allOnes, BitVec.toNat_ofNat,
      Nat.mod_eq_of_lt (unsignedBits_lt x)] at hnot
    rw [Nat.xor_mod_two_pow]
    exact hnot
  rw [hnat]
  omega

/-- **The rank of a number is its bits as a signed word**, where all bits of a negative number but the
sign are turned over. -/
theorem rank_eq_toInt (x : Single) :
    rank x = (if isNegative x then x.bits ^^^ 0x7fffffff else x.bits).toInt32.toInt := by
  have hlt := unsignedBits_lt x
  have hbits := toNat_bits x
  cases h : isNegative x with
  | true =>
    rw [rank_of_negative h, if_pos rfl, toInt_toInt32, toNat_xor_mask]
    rw [h, if_pos rfl] at hbits
    split <;> omega
  | false =>
    rw [rank_of_positive h, if_neg Bool.false_ne_true, toInt_toInt32]
    rw [h, if_neg Bool.false_ne_true] at hbits
    split <;> omega

/-- Numbers of equal rank are equal. -/
theorem rank_eq_iff : rank x = rank y ↔ x = y := by
  refine ⟨fun h => ?_, congrArg rank⟩
  have hsame : isNegative x = isNegative y ∧ unsignedBits x = unsignedBits y := by
    cases hx : isNegative x <;> cases hy : isNegative y
    · rw [rank_of_positive hx, rank_of_positive hy] at h
      exact ⟨rfl, by omega⟩
    · rw [rank_of_positive hx, rank_of_negative hy] at h
      omega
    · rw [rank_of_negative hx, rank_of_positive hy] at h
      omega
    · rw [rank_of_negative hx, rank_of_negative hy] at h
      exact ⟨rfl, by omega⟩
  rw [← ofBits_unsignedBits x, ← ofBits_unsignedBits y, hsame.1, hsame.2]

/-! ## The zeros -/

/-- Positive zero has no bit at all. -/
theorem eq_zero_iff : x = 0 ↔ isNegative x = false ∧ unsignedBits x = 0 := by
  have hzero : rank 0 = 0 := by decide
  rw [← rank_eq_iff, hzero]
  cases h : isNegative x with
  | true =>
    rw [rank_of_negative h]
    exact iff_of_false (by omega) (fun h' => Bool.noConfusion h'.1)
  | false =>
    rw [rank_of_positive h, and_iff_right rfl]
    omega

/-- Negative zero has the sign bit alone. -/
theorem eq_neg_zero_iff : x = -0 ↔ isNegative x = true ∧ unsignedBits x = 0 := by
  have hzero : rank (-0) = -1 := by decide
  rw [← rank_eq_iff, hzero]
  cases h : isNegative x with
  | true =>
    rw [rank_of_negative h, and_iff_right rfl]
    omega
  | false =>
    rw [rank_of_positive h]
    exact iff_of_false (by omega) (fun h' => Bool.noConfusion h'.1)

/-! ## The two ends -/

/-- The negative NaNs rank first. -/
theorem isNegativeNaN_iff : x.IsNegativeNaN ↔ rank x < -0x7f800001 := by
  rw [IsNegativeNaN, isNaN_iff]
  cases hs : isNegative x with
  | true =>
    rw [rank_of_negative hs, and_iff_left rfl]
    omega
  | false =>
    rw [rank_of_positive hs]
    exact iff_of_false (fun h => Bool.noConfusion h.2) (by omega)

/-- The positive NaNs rank last. -/
theorem isPositiveNaN_iff : x.IsPositiveNaN ↔ 0x7f800000 < rank x := by
  rw [IsPositiveNaN, isNaN_iff]
  cases hs : isNegative x with
  | true =>
    rw [rank_of_negative hs]
    exact iff_of_false (fun h => Bool.noConfusion h.2) (by omega)
  | false =>
    rw [rank_of_positive hs, and_iff_left rfl]
    omega

/-- The numbers rank between the two kinds of NaN. -/
theorem isNaN_eq_false_iff_rank : x.isNaN = false ↔ -0x7f800001 ≤ rank x ∧ rank x ≤ 0x7f800000 := by
  rw [isNaN_eq_false_iff, rank]
  split <;> omega

/-! ## The order of the ranks -/

/-- Between the two ends the ranks are in the order of the comparison, but for the two zeros. -/
theorem rank_lt_iff_of_numbers (numbers : x.isNaN = false ∧ y.isNaN = false) :
    rank x < rank y ↔ x < y ∨ x = -0 ∧ y = 0 := by
  rw [lt_iff, and_iff_right numbers, eq_neg_zero_iff, eq_zero_iff]
  cases hs : isNegative x <;> cases hs' : isNegative y
  · rw [rank_of_positive hs, rank_of_positive hs', place_of_positive hs, place_of_positive hs']
    simp
  · rw [rank_of_positive hs, rank_of_negative hs', place_of_positive hs, place_of_negative hs']
    simp
    omega
  · rw [rank_of_negative hs, rank_of_positive hs', place_of_negative hs, place_of_positive hs']
    simp
    omega
  · rw [rank_of_negative hs, rank_of_negative hs', place_of_negative hs, place_of_negative hs']
    simp

/-- A lower rank comes before, for every kind of pair. -/
theorem before_of_rank_lt (h : rank x < rank y) : Before x y := by
  by_cases hx : x.IsNegativeNaN
  · by_cases hy : y.IsNegativeNaN
    · rw [rank_of_negative hx.2, rank_of_negative hy.2] at h
      exact .negativeBits hx hy (by omega)
    · exact .negativeNaN hx hy
  by_cases hy : y.IsPositiveNaN
  · by_cases hx' : x.IsPositiveNaN
    · rw [rank_of_positive hx'.2, rank_of_positive hy.2] at h
      exact .positiveBits hx' hy (by omega)
    · exact .positiveNaN hx' hy
  -- Neither end is left for either of them: the first is no greater than the second.
  rw [isNegativeNaN_iff] at hx
  rw [isPositiveNaN_iff] at hy
  have hnumbers : x.isNaN = false ∧ y.isNaN = false :=
    ⟨isNaN_eq_false_iff_rank.mpr (by omega), isNaN_eq_false_iff_rank.mpr (by omega)⟩
  rcases (rank_lt_iff_of_numbers hnumbers).mp h with hless | ⟨hnegative, hpositive⟩
  · exact .smaller hless
  · exact .zeros hnegative hpositive

/-- What comes before has a lower rank. -/
theorem Before.rank_lt (h : Before x y) : rank x < rank y := by
  cases h with
  | smaller less => exact (rank_lt_iff_of_numbers (lt_iff.mp less).1).mpr (Or.inl less)
  | zeros negative positive =>
    rw [negative, positive]
    decide
  | negativeNaN first second =>
    rw [isNegativeNaN_iff] at first second
    omega
  | positiveNaN first second =>
    rw [isPositiveNaN_iff] at first second
    omega
  | negativeBits first second bits =>
    rw [rank_of_negative first.2, rank_of_negative second.2]
    omega
  | positiveBits first second bits =>
    rw [rank_of_positive first.2, rank_of_positive second.2]
    omega

/-- **Numbers are ranked in the total order.** -/
theorem rank_lt_iff : rank x < rank y ↔ Before x y := ⟨before_of_rank_lt, Before.rank_lt⟩

/-- Any two numbers are in order. -/
theorem before_trichotomy (x y : Single) : Before x y ∨ x = y ∨ Before y x := by
  rw [← rank_lt_iff, ← rank_eq_iff, ← rank_lt_iff]
  exact Int.lt_trichotomy _ _

theorem Before.trans {z : Single} (hxy : Before x y) (hyz : Before y z) : Before x z :=
  rank_lt_iff.mp (Int.lt_trans (rank_lt_iff.mpr hxy) (rank_lt_iff.mpr hyz))

theorem not_before_self (x : Single) : ¬Before x x :=
  fun h => Int.lt_irrefl _ (rank_lt_iff.mpr h)

/-! ## Where NaNs come from -/

/-- A NaN that falls silent keeps its sign. -/
theorem isNegative_quiet (x : Single) : x.quiet.isNegative = x.isNegative := by
  have hdiv : (x.bits.toNat ||| 0x400000) / 2 ^ 31 = x.bits.toNat / 2 ^ 31 := by
    rw [Nat.or_div_two_pow]
    exact Nat.or_zero _
  have hbits : x.quiet.bits.toNat = x.bits.toNat ||| 0x400000 := UInt32.toNat_or _ _
  rw [isNegative, isNegative, hbits, decide_eq_decide]
  omega

/-- Where the language has a result, so has the operation; where it has none, the outcome is the
negative NaN. -/
theorem not_isPositiveNaN_ofFloat (x : Float32) : ¬(ofFloat x).IsPositiveNaN := by
  rintro ⟨hnan, hpositive⟩
  cases hx : x.isNaN with
  | true =>
    rw [ofFloat, if_pos hx] at hpositive
    exact absurd hpositive (by decide)
  | false =>
    rw [ofFloat, if_neg (Bool.eq_false_iff.mp hx), isNaN_iff] at hnan
    have hunpack := unpack_toFloat ⟨x.toBits⟩
    rw [unpacked_notANumber hnan, toFloat, Float32.ofBits_toBits] at hunpack
    have hmodel : x.isNaN = true := congrArg Float.Model.UnpackedFloat.isNaN hunpack
    exact Bool.false_ne_true (hx.symm.trans hmodel)

/-- **No operation makes a positive NaN**: one that comes out of it has gone into it. -/
theorem not_isPositiveNaN_binary (f : Float32 → Float32 → Float32) (hx : ¬x.IsPositiveNaN)
    (hy : ¬y.IsPositiveNaN) : ¬(binary f x y).IsPositiveNaN := by
  have hquiet : ∀ {z : Single}, z.isNaN = true → ¬z.IsPositiveNaN → ¬z.quiet.IsPositiveNaN := by
    intro z hnan hz hquiet
    exact hz ⟨hnan, (isNegative_quiet z).symm.trans hquiet.2⟩
  unfold binary
  split
  · rename_i hnan
    exact hquiet hnan hx
  · split
    · rename_i hnan
      exact hquiet hnan hy
    · exact not_isPositiveNaN_ofFloat _

end Skirmish.Number
