import Skirmish.Number.Decimal

/-!
# Shortest decimals

The text of a number is the decimal with the fewest digits that reads back as the number, and of
several the one nearest to it. `shortest` finds it by going through the decimal grids from the
coarsest to the finest: of each grid it tries the two points between which the number lies, the
nearer one first. The finest grid that it can reach contains the number itself.
-/

namespace Skirmish.Number

/-- The two points of the grid of multiples of `10 ^ exponent` between which a positive quotient
lies, as multiples and with the nearer one first; at equal distance the even one is first. -/
def gridPoints (num den : Nat) (exponent : Int) : List Nat :=
  let n := num * Nat.pow 10 (-exponent).toNat
  let d := den * Nat.pow 10 exponent.toNat
  let q := n / d
  if roundHalfEven n d = q then [q, q + 1] else [q + 1, q]

/-- The exponents of the decimal grids on which a magnitude is looked for, coarsest first. The
magnitude is a point of the last one. -/
def gridExponents (x : Magnitude) : List Int :=
  (List.range (40 + (-x.exponent).toNat)).map fun (i : Nat) => 39 - (i : Int)

/-- The decimal with the fewest digits that reads back as a finite number. -/
def shortest (x : Single) : Decimal :=
  let negative := Single.isNegative x
  let m := Single.magnitude x
  let readsBack (d : Decimal) : Bool := d.toSingle? = some x
  let found := (gridExponents m).findSome? fun e =>
    ((gridPoints m.num m.den e).map fun n => Decimal.mk negative n e).find? readsBack
  -- The number itself is on the last grid, so the search does find a decimal.
  found.getD ⟨negative, m.num * Nat.pow 5 (-m.exponent).toNat, min m.exponent 0⟩

end Skirmish.Number
