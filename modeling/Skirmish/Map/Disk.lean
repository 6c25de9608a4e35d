import Skirmish.Map.Point
import Skirmish.Random.Basic

/-!
# Random points in a disk

A jittered location is a point drawn from a disk so that equal areas are equally likely. The square
root spreads the distance from the center: drawn evenly, it would crowd points toward the center.
-/

namespace Skirmish

/-- The full turn `2 π`, rounded to single precision. -/
def fullTurn : Number.Single := ⟨0x40c90fdb⟩

/-- Draw a point of the disk around a center. Two numbers are drawn, first for the distance and
then for the direction. -/
def Random.pointInDisk (random : Random) (center : Point) (radius : Number.Single) :
    Point × Random :=
  let (u, random) := random.unit
  let (v, random) := random.unit
  let distance := radius * u.sqrt
  let angle := v * fullTurn
  (⟨center.x + distance * angle.cos, center.y + distance * angle.sin⟩, random)

/-- Draw several points of the disk around a center, one after the other. -/
def Random.pointsInDisk (random : Random) (center : Point) (radius : Number.Single) :
    Nat → List Point × Random
  | 0 => ([], random)
  | count + 1 =>
    let (point, random) := random.pointInDisk center radius
    let (points, random) := random.pointsInDisk center radius count
    (point :: points, random)

end Skirmish
