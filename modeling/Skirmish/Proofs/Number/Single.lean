import Mathlib
import Skirmish.Number.Single

/-!
# Single-precision numbers and their bits

A number is its sign and its unsigned bits (`ofBits_unsignedBits`), and these say all that comparing
numbers is about: which of two numbers is the smaller one (`lt_iff`, `le_iff`), and that nothing is
compared with a NaN.

## Shape of the proof

The comparisons of the language take a number apart into its sign, exponent and mantissa. The lemmas
`unpacked_…` say what these are for each kind of bits, and `unpack_toFloat` that the language reads the
same from them; a NaN loses its sign there, but nothing that a comparison looks at. Greater unsigned
bits are a greater exponent, or the same one and a greater mantissa (`magnitude_lt`), so that numbers of
one sign are ranked by their unsigned bits, and all of them by their `place` (`compare_unpacked`).
-/

namespace Skirmish.Number.Single

variable {x y : Single}

/-! ## Bits -/

/-- Without the sign 31 bits remain. -/
theorem unsignedBits_lt (x : Single) : unsignedBits x < 0x80000000 := Nat.mod_lt _ (by norm_num)

/-- The bits of a number are its sign and its unsigned bits. -/
theorem toNat_bits (x : Single) :
    x.bits.toNat = if isNegative x then 0x80000000 + unsignedBits x else unsignedBits x := by
  have hlt : x.bits.toNat < 2 ^ 32 := x.bits.toNat_lt
  simp only [isNegative, unsignedBits, decide_eq_true_eq]
  split <;> omega

/-- The sign and the unsigned bits say which number it is. -/
theorem ofBits_unsignedBits (x : Single) : ofBits (isNegative x) (unsignedBits x) = x := by
  rw [ofBits, ← toNat_bits, UInt32.ofNat_toNat]

/-- Below the leading bit the exponent field is zero, and the mantissa has no hidden bit. -/
theorem magnitude_of_lt (h : unsignedBits x < leadingBit) : magnitude x = ⟨unsignedBits x, -149⟩ :=
  if_pos h

/-- From the leading bit on the mantissa has its hidden bit, and the exponent field counts. -/
theorem magnitude_of_le (h : leadingBit ≤ unsignedBits x) : magnitude x =
    ⟨unsignedBits x % leadingBit + leadingBit, (unsignedBits x / leadingBit : Nat) - 150⟩ :=
  if_neg (Nat.not_lt.mpr h)

/-- A number is put together from what it is taken apart into. -/
theorem ofMagnitude_magnitude (x : Single) : ofMagnitude (isNegative x) (magnitude x) = x := by
  have hbits : ((magnitude x).exponent + 149).toNat * leadingBit + (magnitude x).mantissa =
      unsignedBits x := by
    rcases Nat.lt_or_ge (unsignedBits x) leadingBit with h | h
    · simp [magnitude_of_lt h]
    · rw [magnitude_of_le h]
      simp only [leadingBit] at h ⊢
      omega
  rw [ofMagnitude, hbits, ofBits_unsignedBits]

/-! ## Comparison -/

open Float.Model Float.Model.UnpackedFloat

/-- The sign of a number. -/
def sign (x : Single) : Sign := if isNegative x then .negative else .positive

/-- The exponent field is what stands above the leading bit. -/
theorem toNat_unpackExponent (x : Single) :
    (@unpackExponent .binary32 x.bits.toBitVec).toNat = unsignedBits x / leadingBit := by
  rw [unpackExponent_def, BitVec.extractLsb'_toNat, unsignedBits, leadingBit]
  simp only [UInt32.toNat_toBitVec, Nat.shiftRight_eq_div_pow]
  omega

/-- The mantissa field is what stands below the leading bit. -/
theorem toNat_unpackMantissa (x : Single) :
    (@unpackMantissa .binary32 x.bits.toBitVec).toNat = unsignedBits x % leadingBit := by
  rw [unpackMantissa_def, BitVec.extractLsb'_toNat, unsignedBits, leadingBit]
  simp only [UInt32.toNat_toBitVec, Nat.shiftRight_eq_div_pow]
  omega

/-- The sign field is the sign. -/
theorem ofBitVec_unpackSign (x : Single) :
    Sign.ofBitVec (@unpackSign .binary32 x.bits.toBitVec) = sign x := by
  have hlt : x.bits.toNat < 2 ^ 32 := x.bits.toNat_lt
  have hsign : (@unpackSign .binary32 x.bits.toBitVec).toNat = x.bits.toNat / 2 ^ 31 := by
    rw [unpackSign_def, BitVec.extractLsb'_toNat]
    simp only [UInt32.toNat_toBitVec, Nat.shiftRight_eq_div_pow]
    omega
  have hzero : @unpackSign .binary32 x.bits.toBitVec = 0#1 ↔ isNegative x = false := by
    rw [BitVec.toNat_eq, hsign, isNegative, decide_eq_false_iff_not]
    simp
  simp only [Sign.ofBitVec, hzero, sign]
  cases isNegative x <;> rfl

/-- The sign, exponent and mantissa that the bits of a number stand for. -/
def unpacked (x : Single) : UnpackedFloat := UnpackedFloat.unpack .binary32 x.bits.toBitVec

/-- The largest exponent field with an empty mantissa is infinity. -/
theorem unpacked_infinity (h : unsignedBits x = 0x7f800000) : x.unpacked = .infinity (sign x) := by
  have hexponent : @unpackExponent .binary32 x.bits.toBitVec = -1#8 := by
    rw [BitVec.toNat_eq, toNat_unpackExponent, h]
    rfl
  have hmantissa : @unpackMantissa .binary32 x.bits.toBitVec = 0#23 := by
    rw [BitVec.toNat_eq, toNat_unpackMantissa, h]
    rfl
  rw [unpacked, UnpackedFloat.unpack, ← ofBitVec_unpackSign]
  exact (if_pos hexponent).trans (if_pos hmantissa)

/-- The largest exponent field with any other mantissa is NaN. -/
theorem unpacked_notANumber (h : 0x7f800000 < unsignedBits x) : x.unpacked = .notANumber := by
  have hlt := unsignedBits_lt x
  have hexponent : @unpackExponent .binary32 x.bits.toBitVec = -1#8 := by
    rw [BitVec.toNat_eq, toNat_unpackExponent, leadingBit]
    show _ = 255
    omega
  have hmantissa : @unpackMantissa .binary32 x.bits.toBitVec ≠ 0#23 := by
    rw [ne_eq, BitVec.toNat_eq, toNat_unpackMantissa, leadingBit]
    show _ ≠ 0
    omega
  rw [unpacked, UnpackedFloat.unpack]
  exact (if_pos hexponent).trans (if_neg hmantissa)

/-- No bit besides the sign is zero. -/
theorem unpacked_zero (h : unsignedBits x = 0) : x.unpacked = .zero (sign x) := by
  have hexponent : @unpackExponent .binary32 x.bits.toBitVec = 0#8 := by
    rw [BitVec.toNat_eq, toNat_unpackExponent, h]
    rfl
  have hmantissa : @unpackMantissa .binary32 x.bits.toBitVec = 0#23 := by
    rw [BitVec.toNat_eq, toNat_unpackMantissa, h]
    rfl
  have hnotTop : @unpackExponent .binary32 x.bits.toBitVec ≠ -1#8 := by
    rw [hexponent]
    decide
  rw [unpacked, UnpackedFloat.unpack, ← ofBitVec_unpackSign]
  exact (if_neg hnotTop).trans ((if_pos hexponent).trans (dif_pos hmantissa))

/-- A finite value may be given by equal mantissas and exponents. -/
theorem exists_eq_finite {u : UnpackedFloat} {s : Sign} {m m' : Nat} {e e' : Int} {h : 0 < m}
    (eq : u = .finite s m e h) (mantissa : m = m') (exponent : e = e') :
    ∃ h', u = .finite s m' e' h' := by
  subst mantissa exponent
  exact ⟨h, eq⟩

/-- Everything else is the finite number of that sign and magnitude. -/
theorem unpacked_finite (finite : unsignedBits x < 0x7f800000) (nonzero : unsignedBits x ≠ 0) :
    ∃ h, x.unpacked = .finite (sign x) (magnitude x).mantissa (magnitude x).exponent h := by
  have hexponent := toNat_unpackExponent x
  have hmantissa := toNat_unpackMantissa x
  have hnotTop : @unpackExponent .binary32 x.bits.toBitVec ≠ -1#8 := by
    rw [ne_eq, BitVec.toNat_eq, hexponent, leadingBit]
    show _ ≠ 255
    omega
  rw [unpacked, UnpackedFloat.unpack, ← ofBitVec_unpackSign]
  -- Subnormal numbers have an empty exponent field and no hidden bit.
  rcases Nat.lt_or_ge (unsignedBits x) leadingBit with hsmall | hlarge
  · have hzero : @unpackExponent .binary32 x.bits.toBitVec = 0#8 := by
      rw [BitVec.toNat_eq, hexponent, Nat.div_eq_of_lt hsmall]
      rfl
    have hnonzero : @unpackMantissa .binary32 x.bits.toBitVec ≠ 0#23 := by
      rw [ne_eq, BitVec.toNat_eq, hmantissa, Nat.mod_eq_of_lt hsmall]
      exact nonzero
    rw [magnitude_of_lt hsmall]
    refine exists_eq_finite ((if_neg hnotTop).trans ((if_pos hzero).trans (dif_neg hnonzero))) ?_ ?_
    · exact hmantissa.trans (Nat.mod_eq_of_lt hsmall)
    · show ((@unpackExponent .binary32 x.bits.toBitVec).toNat : Int) - (127 + 23) + 1 = -149
      rw [hzero]
      rfl
  · have hnonzero : @unpackExponent .binary32 x.bits.toBitVec ≠ 0#8 := by
      rw [ne_eq, BitVec.toNat_eq, hexponent]
      exact (Nat.div_pos hlarge (by decide)).ne'
    rw [magnitude_of_le hlarge]
    refine exists_eq_finite ((if_neg hnotTop).trans (if_neg hnonzero)) ?_ ?_
    · rw [BitVec.toNat_append, ← Nat.shiftLeft_add_eq_or_of_lt (BitVec.isLt _)]
      exact (Nat.add_comm _ _).trans (congrArg (· + leadingBit) hmantissa)
    · show ((@unpackExponent .binary32 x.bits.toBitVec).toNat : Int) - (127 + 23) = _
      rw [hexponent]
      rfl

/-- Greater unsigned bits are a greater exponent, or the same one and a greater mantissa. -/
theorem magnitude_lt (h : unsignedBits x < unsignedBits y) :
    (magnitude x).exponent < (magnitude y).exponent ∨
      (magnitude x).exponent = (magnitude y).exponent ∧
        (magnitude x).mantissa < (magnitude y).mantissa := by
  rcases Nat.lt_or_ge (unsignedBits x) leadingBit with hx | hx <;>
    rcases Nat.lt_or_ge (unsignedBits y) leadingBit with hy | hy
  · rw [magnitude_of_lt hx, magnitude_of_lt hy]
    exact Or.inr ⟨rfl, h⟩
  · rw [magnitude_of_lt hx, magnitude_of_le hy]
    simp only [leadingBit] at hx hy ⊢
    omega
  · omega
  · rw [magnitude_of_le hx, magnitude_of_le hy]
    simp only [leadingBit] at hx hy ⊢
    omega

/-- The unsigned bits rank the magnitudes. -/
theorem compare_magnitude (x y : Single) :
    (compare (magnitude x).exponent (magnitude y).exponent).then
      (compare (magnitude x).mantissa (magnitude y).mantissa) =
      compare (unsignedBits x) (unsignedBits y) := by
  -- The exponent stands above the mantissa, so the bits compare as the two do in turn.
  rcases Nat.lt_trichotomy (unsignedBits x) (unsignedBits y) with hlt | heq | hgt
  · rw [compare_lt_iff_lt.mpr hlt]
    rcases magnitude_lt hlt with he | ⟨he, hm⟩
    · rw [compare_lt_iff_lt.mpr he]
      rfl
    · rw [compare_eq_iff_eq.mpr he, compare_lt_iff_lt.mpr hm]
      rfl
  · have hmagnitude : magnitude x = magnitude y := by rw [magnitude, magnitude, heq]
    rw [hmagnitude, heq, compare_eq_iff_eq.mpr rfl, compare_eq_iff_eq.mpr rfl,
      compare_eq_iff_eq.mpr rfl]
    rfl
  · rw [compare_gt_iff_gt.mpr hgt]
    rcases magnitude_lt hgt with he | ⟨he, hm⟩
    · rw [compare_gt_iff_gt.mpr he]
      rfl
    · rw [compare_eq_iff_eq.mpr he.symm, compare_gt_iff_gt.mpr hm]
      rfl

/-! ### Places -/

/-- The place of a number among the others. Both zeros are at the same place. -/
def place (x : Single) : Int := if isNegative x then -unsignedBits x else unsignedBits x

/-- A negative number stands to the left of zero. -/
theorem place_of_negative (h : isNegative x = true) : place x = -unsignedBits x := if_pos h

theorem place_of_positive (h : isNegative x = false) : place x = unsignedBits x :=
  if_neg (Bool.eq_false_iff.mp h)

/-- No place is further to the left than the bits say. -/
theorem neg_unsignedBits_le_place (x : Single) : -(unsignedBits x : Int) ≤ place x := by
  rw [place]
  split <;> omega

/-- No place is further to the right than the bits say. -/
theorem place_le_unsignedBits (x : Single) : place x ≤ unsignedBits x := by
  rw [place]
  split <;> omega

theorem sign_of_negative (h : isNegative x = true) : sign x = .negative := if_pos h

theorem sign_of_positive (h : isNegative x = false) : sign x = .positive :=
  if_neg (Bool.eq_false_iff.mp h)

/-- An infinity is before or behind all finite numbers. -/
theorem compare_infinity (hx : unsignedBits x = 0x7f800000) (hy : unsignedBits y < 0x7f800000) :
    x.unpacked.compare y.unpacked = some (compare (place x) (place y)) ∧
      y.unpacked.compare x.unpacked = some (compare (place y) (place x)) := by
  have hlow := neg_unsignedBits_le_place y
  have hhigh := place_le_unsignedBits y
  -- The comparison looks at the sign of the infinity alone, so all finite numbers are one case.
  have hfinite : y.unpacked = .zero (sign y) ∨
      ∃ m e h, y.unpacked = .finite (sign y) m e h := by
    by_cases hzero : unsignedBits y = 0
    · exact Or.inl (unpacked_zero hzero)
    · obtain ⟨h, hunpack⟩ := unpacked_finite hy hzero
      exact Or.inr ⟨_, _, h, hunpack⟩
  cases hs : isNegative x with
  | true =>
    have hplace : place x < place y := by
      rw [place_of_negative hs]
      omega
    rw [compare_lt_iff_lt.mpr hplace, compare_gt_iff_gt.mpr hplace, unpacked_infinity hx,
      sign_of_negative hs]
    rcases hfinite with h | ⟨m, e, hm, h⟩
    · rw [h]
      exact ⟨rfl, rfl⟩
    · rw [h]
      exact ⟨rfl, rfl⟩
  | false =>
    have hplace : place y < place x := by
      rw [place_of_positive hs]
      omega
    rw [compare_lt_iff_lt.mpr hplace, compare_gt_iff_gt.mpr hplace, unpacked_infinity hx,
      sign_of_positive hs]
    rcases hfinite with h | ⟨m, e, hm, h⟩
    · rw [h]
      exact ⟨rfl, rfl⟩
    · rw [h]
      exact ⟨rfl, rfl⟩

/-- A zero is between the negative and the positive numbers. -/
theorem compare_zero (hx : unsignedBits x = 0) (hy : unsignedBits y < 0x7f800000)
    (nonzero : unsignedBits y ≠ 0) :
    x.unpacked.compare y.unpacked = some (compare (place x) (place y)) ∧
      y.unpacked.compare x.unpacked = some (compare (place y) (place x)) := by
  -- Zero has one place, whichever sign it has.
  have hlow := neg_unsignedBits_le_place x
  have hhigh := place_le_unsignedBits x
  obtain ⟨h, hunpack⟩ := unpacked_finite hy nonzero
  rw [unpacked_zero hx, hunpack]
  cases hs : isNegative y with
  | true =>
    have hplace : place y < place x := by
      rw [place_of_negative hs]
      omega
    rw [compare_lt_iff_lt.mpr hplace, compare_gt_iff_gt.mpr hplace, sign_of_negative hs]
    exact ⟨rfl, rfl⟩
  | false =>
    have hplace : place x < place y := by
      rw [place_of_positive hs]
      omega
    rw [compare_lt_iff_lt.mpr hplace, compare_gt_iff_gt.mpr hplace, sign_of_positive hs]
    exact ⟨rfl, rfl⟩

theorem compare_natCast (a b : Nat) : compare (a : Int) b = compare a b := by
  rcases Nat.lt_trichotomy a b with hlt | heq | hgt
  · rw [compare_lt_iff_lt.mpr hlt, compare_lt_iff_lt.mpr (Int.ofNat_lt.mpr hlt)]
  · rw [compare_eq_iff_eq.mpr heq, compare_eq_iff_eq.mpr (congrArg _ heq)]
  · rw [compare_gt_iff_gt.mpr hgt, compare_gt_iff_gt.mpr (Int.ofNat_lt.mpr hgt)]

/-- Negation turns a comparison round. -/
theorem compare_neg_natCast (a b : Nat) : compare (-a : Int) (-b) = (compare a b).swap := by
  rcases Nat.lt_trichotomy a b with hlt | heq | hgt
  · rw [compare_lt_iff_lt.mpr hlt, compare_gt_iff_gt.mpr (by omega)]
    rfl
  · rw [compare_eq_iff_eq.mpr heq, compare_eq_iff_eq.mpr (by omega)]
    rfl
  · rw [compare_gt_iff_gt.mpr hgt, compare_lt_iff_lt.mpr (by omega)]
    rfl

/-- Finite numbers of one sign are ranked by their magnitudes. -/
theorem compare_finite (hx : unsignedBits x < 0x7f800000) (hy : unsignedBits y < 0x7f800000)
    (hx0 : unsignedBits x ≠ 0) (hy0 : unsignedBits y ≠ 0) :
    x.unpacked.compare y.unpacked = some (compare (place x) (place y)) := by
  have hmagnitude := compare_magnitude x y
  obtain ⟨hm, hunpack⟩ := unpacked_finite hx hx0
  obtain ⟨hm', hunpack'⟩ := unpacked_finite hy hy0
  rw [hunpack, hunpack']
  -- Different signs decide; with the same sign the magnitudes do, the other way round below zero.
  cases hs : isNegative x with
  | true =>
    rw [sign_of_negative hs, place_of_negative hs]
    cases hs' : isNegative y with
    | true =>
      rw [sign_of_negative hs', place_of_negative hs', compare_neg_natCast, ← hmagnitude]
      rfl
    | false =>
      rw [sign_of_positive hs', place_of_positive hs', compare_lt_iff_lt.mpr (by omega)]
      rfl
  | false =>
    rw [sign_of_positive hs, place_of_positive hs]
    cases hs' : isNegative y with
    | true =>
      rw [sign_of_negative hs', place_of_negative hs', compare_gt_iff_gt.mpr (by omega)]
      rfl
    | false =>
      rw [sign_of_positive hs', place_of_positive hs', compare_natCast, ← hmagnitude]
      rfl

/-- **Numbers are compared by their places.** -/
theorem compare_unpacked (hx : unsignedBits x ≤ 0x7f800000) (hy : unsignedBits y ≤ 0x7f800000) :
    x.unpacked.compare y.unpacked = some (compare (place x) (place y)) := by
  rcases hx.eq_or_lt with hx | hx <;> rcases hy.eq_or_lt with hy | hy
  · rw [unpacked_infinity hx, unpacked_infinity hy, place, place, sign, sign, hx, hy]
    cases isNegative x <;> cases isNegative y <;> rfl
  · exact (compare_infinity hx hy).1
  · exact (compare_infinity hy hx).2
  · by_cases hx0 : unsignedBits x = 0 <;> by_cases hy0 : unsignedBits y = 0
    · rw [unpacked_zero hx0, unpacked_zero hy0, place, place, hx0, hy0]
      cases isNegative x <;> cases isNegative y <;> rfl
    · exact (compare_zero hx0 hy hy0).1
    · exact (compare_zero hy0 hx hx0).2
    · exact compare_finite hx hy hx0 hy0

/-! ### The comparisons of the language -/

/-- The NaNs are the bits above infinity. -/
theorem isNaN_iff (x : Single) : x.isNaN = true ↔ 0x7f800000 < unsignedBits x := decide_eq_true_iff

/-- The numbers are the bits up to infinity. -/
theorem isNaN_eq_false_iff (x : Single) : x.isNaN = false ↔ unsignedBits x ≤ 0x7f800000 := by
  rw [← Bool.not_eq_true, isNaN_iff, Nat.not_lt]

/-- The language keeps the bits of a number, though not those of every NaN. -/
theorem toBits_toFloat (number : x.isNaN = false) : x.toFloat.toBits = x.bits := by
  have hbits := (isNaN_eq_false_iff x).mp number
  have hvalid : Format.binary32.Valid x.bits.toBitVec := by
    refine ⟨fun hexponent hmantissa => absurd ?_ (Nat.not_lt.mpr hbits)⟩
    -- The greatest exponent beside a mantissa that is not zero is the form of a NaN.
    have hexponent' : unsignedBits x / leadingBit = 255 := by
      rw [← toNat_unpackExponent, hexponent]
      rfl
    have hmantissa' : unsignedBits x % leadingBit ≠ 0 := by
      rw [← toNat_unpackMantissa]
      exact fun h => hmantissa (BitVec.toNat_eq.mpr h)
    simp only [leadingBit] at hexponent' hmantissa'
    omega
  exact congrArg Float32.toBits (Float32.ofBits_toBits (.ofModel ⟨x.bits, hvalid⟩))

/-- The language reads from the bits what they stand for. -/
theorem unpack_toFloat (x : Single) : x.toFloat.toModel.unpack = x.unpacked := by
  cases hx : x.isNaN with
  | true =>
    have hunpacked := unpacked_notANumber ((isNaN_iff x).mp hx)
    have hmodel : x.toFloat.toModel = .pack .notANumber := congrArg Float32.Model.pack hunpacked
    rw [hunpacked, hmodel]
    rfl
  | false =>
    show UnpackedFloat.unpack .binary32 x.toFloat.toBits.toBitVec = _
    rw [toBits_toFloat hx, unpacked]

/-- Nothing is compared with something that is no number. -/
theorem compare_of_isNaN (h : ¬(x.isNaN = false ∧ y.isNaN = false)) :
    x.unpacked.compare y.unpacked = none := by
  rw [isNaN_eq_false_iff, isNaN_eq_false_iff, Classical.not_and_iff_not_or_not, Nat.not_le,
    Nat.not_le] at h
  rcases h with h | h
  · rw [unpacked_notANumber h]
    rfl
  · rw [unpacked_notANumber h]
    cases x.unpacked <;> rfl

/-- Less is to the left of, and holds of numbers only. -/
theorem lt_iff : x < y ↔ (x.isNaN = false ∧ y.isNaN = false) ∧ place x < place y := by
  have hlt : x < y ↔ (x.unpacked.compare y.unpacked == some .lt) = true := by
    show Float32.lt x.toFloat y.toFloat = true ↔ _
    rw [Float32.lt, decide_eq_true_iff, ← unpack_toFloat, ← unpack_toFloat]
    exact Iff.rfl
  rw [hlt]
  by_cases hnumbers : x.isNaN = false ∧ y.isNaN = false
  · rw [compare_unpacked ((isNaN_eq_false_iff x).mp hnumbers.1) ((isNaN_eq_false_iff y).mp hnumbers.2),
      beq_iff_eq, Option.some_inj, compare_lt_iff_lt]
    exact (and_iff_right hnumbers).symm
  · rw [compare_of_isNaN hnumbers]
    exact iff_of_false Bool.false_ne_true fun h => hnumbers h.1

/-- At most is to the left of or at the same place, and holds of numbers only. -/
theorem le_iff : x ≤ y ↔ (x.isNaN = false ∧ y.isNaN = false) ∧ place x ≤ place y := by
  have hle : x ≤ y ↔ (x.unpacked.compare y.unpacked).any (·.isLE) = true := by
    show Float32.le x.toFloat y.toFloat = true ↔ _
    rw [Float32.le, decide_eq_true_iff, ← unpack_toFloat, ← unpack_toFloat]
    exact Iff.rfl
  rw [hle]
  by_cases hnumbers : x.isNaN = false ∧ y.isNaN = false
  · rw [compare_unpacked ((isNaN_eq_false_iff x).mp hnumbers.1) ((isNaN_eq_false_iff y).mp hnumbers.2),
      Option.any_some, and_iff_right hnumbers]
    exact Std.isLE_compare
  · rw [compare_of_isNaN hnumbers]
    exact iff_of_false Bool.false_ne_true fun h => hnumbers h.1

/-- For two numbers, not less is at least. -/
theorem not_lt_iff (numbers : x.isNaN = false ∧ y.isNaN = false) : ¬x < y ↔ y ≤ x := by
  rw [lt_iff, le_iff, and_iff_right numbers, and_iff_right numbers.symm, Int.not_lt]

/-- For two numbers, not at most is greater. -/
theorem not_le_iff (numbers : x.isNaN = false ∧ y.isNaN = false) : ¬x ≤ y ↔ y < x := by
  rw [lt_iff, le_iff, and_iff_right numbers, and_iff_right numbers.symm, Int.not_le]

end Skirmish.Number.Single
