/-!
# Binary floating point in exact arithmetic

Positive numbers are quotients of natural numbers here, and a positive floating-point number is a
`Magnitude`, an integer times a power of two. Nothing is computed in floating point: rounding a
quotient is one integer division.

`Format.round` is rounding to nearest, halves to the even neighbour, for any precision; it answers
nothing where the format overflows.
-/

namespace Skirmish.Number

/-- The integer nearest to a quotient; halfway between two integers, the even one. -/
def roundHalfEven (num den : Nat) : Nat :=
  let q := num / den
  let r := num % den
  if 2 * r < den ∨ (2 * r = den ∧ q % 2 = 0) then q else q + 1

/-- The greatest `l` with `2 ^ l ≤ num / den`, for positive `num` and `den`. -/
def floorLog2 (num den : Nat) : Int :=
  -- The quotient of the leading powers of two is at most one step too large.
  let l : Int := (num.log2 : Int) - den.log2
  if num * Nat.pow 2 (-l).toNat < den * Nat.pow 2 l.toNat then l - 1 else l

/-- The number `mantissa * 2 ^ exponent`. -/
structure Magnitude where
  mantissa : Nat
  exponent : Int
deriving Repr, DecidableEq

namespace Magnitude

/-- The numerator of a magnitude as a quotient. -/
def num (x : Magnitude) : Nat := x.mantissa * Nat.pow 2 x.exponent.toNat

/-- The denominator of a magnitude as a quotient, a power of two. -/
def den (x : Magnitude) : Nat := Nat.pow 2 (-x.exponent).toNat

end Magnitude

/-- A binary floating-point format: the width of its mantissa, the exponent of its smallest
positive number, and the exponent of the least power of two that it cannot hold. -/
structure Format where
  precision : Nat
  minExponent : Int
  overflow : Int

/-- IEEE 754 single precision. -/
def binary32 : Format := ⟨24, -149, 128⟩

/-- IEEE 754 double precision. -/
def binary64 : Format := ⟨53, -1074, 1024⟩

/-- The number of the format nearest to a positive quotient, halves to the even mantissa, or
nothing where that number is too large for the format. -/
def Format.round (f : Format) (num den : Nat) : Option Magnitude :=
  -- The exponent at which the mantissa has its full width, unless that is too small.
  let e := max f.minExponent (floorLog2 num den - (f.precision - 1))
  let m := roundHalfEven (num * Nat.pow 2 (-e).toNat) (den * Nat.pow 2 e.toNat)
  if m ≠ 0 ∧ f.overflow ≤ (m.log2 : Int) + e then none else some ⟨m, e⟩

end Skirmish.Number
