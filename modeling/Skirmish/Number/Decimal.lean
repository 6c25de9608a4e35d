import Skirmish.Number.Single

/-!
# Reading decimals

A decimal literal is an integer times a power of ten. It is read as a single-precision number in
two roundings, first to double and then to single precision, because that is what both document
formats of this library promise for a number with a fraction or an exponent. A literal beyond the
double range cannot be read; one beyond the single range is read as an infinity.
-/

namespace Skirmish.Number

/-- The decimal `± significand * 10 ^ exponent`. -/
structure Decimal where
  negative : Bool
  significand : Nat
  exponent : Int
deriving Repr, DecidableEq

namespace Decimal

/-- The number of digits of a positive number. -/
def digitCount (n : Nat) : Nat := (Nat.toDigits 10 n).length

/-- The numerator of the absolute value as a quotient. -/
def num (d : Decimal) : Nat := d.significand * Nat.pow 10 d.exponent.toNat

/-- The denominator of the absolute value as a quotient. -/
def den (d : Decimal) : Nat := Nat.pow 10 (-d.exponent).toNat

/-- The single-precision number with the sign of the literal nearest to a positive quotient that
has been rounded to double precision. -/
def narrow (negative : Bool) (x : Magnitude) : Single :=
  if x.mantissa = 0 then Single.ofBits negative 0
  else match binary32.round x.num x.den with
    | some y => Single.ofMagnitude negative y
    | none => Single.infinity negative

/-- The number a literal is read as, or nothing beyond the double range.

The first two cases decide literals whose power of ten is not worth writing out: every positive
number below `10 ^ (-400)` rounds to zero, and every number from `10 ^ 400` is out of range. -/
def toSingle? (d : Decimal) : Option Single :=
  let top := d.exponent + digitCount d.significand
  if d.significand = 0 ∨ top < -400 then some (Single.ofBits d.negative 0)
  else if 400 < top then none
  else (binary64.round d.num d.den).map (narrow d.negative)

end Decimal

/-- The single-precision number nearest to an integer. -/
def ofInt (i : Int) : Single :=
  if i = 0 then Single.ofBits false 0
  else match binary32.round i.natAbs 1 with
    | some x => Single.ofMagnitude (decide (i < 0)) x
    | none => Single.infinity (decide (i < 0))

end Skirmish.Number
