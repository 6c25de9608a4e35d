import Skirmish.Map.Point
import Skirmish.Number.TotalOrder
import Skirmish.Ordered.Least
import Skirmish.World.UnitTag

/-!
# The nearest candidate

Candidates are ranked by their squared distance to a target, in the total order of numbers, and at
equal distance by tag. Since no two different tags are equal, the choice does not depend on the
order in which the candidates are listed.
-/

namespace Skirmish

/-- A unit that may be chosen, with its position. -/
abbrev Candidate := UnitTag × Point

namespace Candidate

/-- Whether the first candidate is ranked before the second. -/
def precedes (target : Point) (a b : Candidate) : Bool :=
  let da := Number.rank (a.2.distanceSquared target)
  let db := Number.rank (b.2.distanceSquared target)
  decide (da < db) || (decide (da = db) && Key.precedes a.1 b.1)

end Candidate

/-- The tag of the candidate nearest to a target. -/
def nearestTo (target : Point) (candidates : List Candidate) : Option UnitTag :=
  (least (Candidate.precedes target) candidates).map (·.1)

end Skirmish
