import Skirmish.Number.Shortest

/-!
# Number texts

Three ways to write a single-precision number, which differ in where digits and exponent go and
agree on the digits themselves:

* `plain`, for messages: the shortest digits, never an exponent, no fraction where none is needed;
* `twoPlaces`, for positions in messages: the exact value rounded to two decimals, halves to even;
* `document`, for JSON: the shortest digits, always marked as a fraction or by an exponent, and an
  exponent only outside the range from `10 ^ (-6)` up to but not including `10 ^ 13`.

All three write the sign of the negative zero.
-/

namespace Skirmish.Number

/-- The digits of a number. -/
def digits (n : Nat) : List Char := Nat.toDigits 10 n

/-- Digits with the decimal point before the last `places` of them, and enough zeros in front that
a digit comes before the point. -/
def withPlaces (ds : List Char) (places : Nat) : List Char :=
  let padded := List.replicate (places + 1 - ds.length) '0' ++ ds
  let whole := padded.length - places
  padded.take whole ++ '.' :: padded.drop whole

/-- The text `body` behind a minus sign, if there is one. -/
def signed (negative : Bool) (body : List Char) : List Char :=
  if negative then '-' :: body else body

/-- The text of an integer. -/
def integer (i : Int) : List Char := signed (decide (i < 0)) (digits i.natAbs)

/-- The words for numbers that are not finite. -/
def unbounded (x : Single) : List Char :=
  if Single.unsignedBits x = 0x7f800000 then signed (Single.isNegative x) ['i', 'n', 'f']
  else ['N', 'a', 'N']

/-- The shortest text of a number without an exponent. -/
def plain (x : Single) : List Char :=
  if Single.isFinite x then
    let d := shortest x
    signed d.negative <|
      if 0 ≤ d.exponent then
        if d.significand = 0 then ['0']
        else digits d.significand ++ List.replicate d.exponent.toNat '0'
      else withPlaces (digits d.significand) (-d.exponent).toNat
  else unbounded x

/-- A number rounded to two decimals. -/
def twoPlaces (x : Single) : List Char :=
  if Single.isFinite x then
    let m := Single.magnitude x
    signed (Single.isNegative x) (withPlaces (digits (roundHalfEven (m.num * 100) m.den)) 2)
  else unbounded x

/-- Digits with a point behind the first of them, if there is a second. -/
def scientificDigits : List Char → List Char
  | [] => []
  | [d] => [d]
  | d :: rest => d :: '.' :: rest

/-- The text of a finite number in a JSON document. -/
def document (x : Single) : List Char :=
  let d := shortest x
  let ds := digits d.significand
  -- The power of ten of the first digit.
  let leading := d.exponent + ds.length - 1
  signed d.negative <|
    if d.significand = 0 then ['0', '.', '0']
    else if -6 ≤ leading ∧ leading ≤ 12 then
      if 0 ≤ d.exponent then ds ++ List.replicate d.exponent.toNat '0' ++ ['.', '0']
      else withPlaces ds (-d.exponent).toNat
    else
      scientificDigits ds ++ 'e' :: (if leading < 0 then '-' else '+') :: digits leading.natAbs

end Skirmish.Number
