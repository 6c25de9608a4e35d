import Skirmish.Number.Text

/-!
# Points of the map

Positions are pairs of single-precision numbers, and every operation on them rounds after each
arithmetic step: a squared distance is the rounded sum of two rounded squares of two rounded
differences.
-/

namespace Skirmish

/-- A position on the map. -/
structure Point where
  x : Number.Single
  y : Number.Single
deriving DecidableEq, Repr

namespace Point

/-- The point whose coordinates are both zero. -/
def origin : Point := ⟨0, 0⟩

instance : Inhabited Point := ⟨origin⟩

/-- The square of the distance between two points. -/
def distanceSquared (p q : Point) : Number.Single :=
  let dx := p.x - q.x
  let dy := p.y - q.y
  dx * dx + dy * dy

/-- The distance between two points. -/
def distance (p q : Point) : Number.Single := (p.distanceSquared q).sqrt

instance : Add Point := ⟨fun p q => ⟨p.x + q.x, p.y + q.y⟩⟩

instance : Sub Point := ⟨fun p q => ⟨p.x - q.x, p.y - q.y⟩⟩

/-- Whether two points have equal coordinates; the two zeros are equal, a NaN equals nothing. -/
def sameAs (p q : Point) : Bool := p.x.sameValue q.x && p.y.sameValue q.y

/-- A point in a message, with two decimals. -/
def text (p : Point) : String :=
  String.ofList ('(' :: Number.twoPlaces p.x ++ [',', ' '] ++ Number.twoPlaces p.y ++ [')'])

end Point

end Skirmish
