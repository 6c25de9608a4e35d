import Skirmish.Number.Single

/-!
# The total order of single-precision numbers

Comparing floating-point numbers with `<` is no order: a NaN is neither less nor greater than any
number, and the two zeros are not told apart. Distances are ranked by `rank` instead, the position
of a number in the IEEE 754 total order: negative NaNs, negative numbers by falling magnitude, the
negative zero, the positive zero, positive numbers by rising magnitude, and positive NaNs.
-/

namespace Skirmish.Number

/-- The position of a number in the total order: its bits read as a signed integer, where those of
a negative number are turned over below the sign. -/
def rank (x : Single) : Int :=
  if Single.isNegative x then -(Single.unsignedBits x : Int) - 1 else Single.unsignedBits x

end Skirmish.Number
