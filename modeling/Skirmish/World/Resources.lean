import Skirmish.Map.Nearest
import Skirmish.World.Snapshot

/-!
# Resources

The unit of a snapshot to gather from or to build on, chosen by its distance to a point.
-/

namespace Skirmish.Snapshot

/-- The nearest of the units that a test accepts. -/
def nearestUnit? (snapshot : Snapshot) (around : Point) (accepts : UnitView → Bool) :
    Option UnitView :=
  (nearestTo around ((snapshot.units.filter accepts).map (·.candidate))).bind snapshot.unit?

/-- Whether the unit is a mineral field that belongs to nobody. -/
def isMineralSource (unit : UnitView) : Bool :=
  unit.alliance = .neutral && unit.unitType.isMineralPatch

/-- The nearest mineral field. -/
def nearestMineralPatch? (snapshot : Snapshot) (around : Point) : Option UnitView :=
  snapshot.nearestUnit? around isMineralSource

/-- Whether a gas structure, of whatever side and however far it is built, stands within the claim
radius of a position. -/
def isClaimed (snapshot : Snapshot) (claimRadius : Number.Single) (position : Point) : Bool :=
  (snapshot.units.filter (·.unitType.isGasStructure)).any fun unit =>
    decide (unit.position.distanceSquared position ≤ claimRadius * claimRadius)

/-- The nearest geyser that no gas structure claims. -/
def nearestFreeGeyser? (snapshot : Snapshot) (around : Point) (claimRadius : Number.Single) :
    Option UnitView :=
  snapshot.nearestUnit? around fun unit =>
    unit.unitType.isGeyser && !snapshot.isClaimed claimRadius unit.position

/-- Whether the unit is a finished gas structure of our own. -/
def isGasSource (unit : UnitView) : Bool :=
  unit.isOwn && unit.unitType.isGasStructure && unit.isComplete

/-- The nearest finished gas structure of our own. -/
def nearestGasStructure? (snapshot : Snapshot) (around : Point) : Option UnitView :=
  snapshot.nearestUnit? around isGasSource

end Skirmish.Snapshot
