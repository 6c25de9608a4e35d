import Skirmish.Strategy.Metric
import Skirmish.World.Snapshot

/-!
# Conditions

A condition compares a metric of the world with a value, and both bounds include the value. A
condition that counts units says of which type, and may count only those in a disk; without that it
counts none.

The clock is read as a signed number of 64 bits: from `2 ^ 63` ticks on it counts up from the
smallest negative number.
-/

namespace Skirmish

/-- Which units a condition counts. -/
structure UnitCount where
  unitType : UnitType
  /-- The center of a disk and the square of its radius; units have to be strictly inside. -/
  within : Option (Point × Number.Single)
deriving DecidableEq, Repr

namespace UnitCount

/-- Whether a unit of ours is counted. -/
def counts (count : UnitCount) (unit : UnitView) : Bool :=
  unit.unitType = count.unitType &&
    match count.within with
    | some (center, square) => decide (unit.position.distanceSquared center < square)
    | none => true

end UnitCount

/-- A bound on a metric of the world. -/
structure Condition where
  kind : ConditionKind
  value : Int64
  count : Option UnitCount
deriving DecidableEq, Repr

namespace Condition

/-- A condition that counts no units. -/
def ofKind (kind : ConditionKind) (value : Int64) : Condition := ⟨kind, value, none⟩

/-- A condition on the number of our units of a type. -/
def unitCount (bound : Bound) (value : Int64) (unitType : UnitType) : Condition :=
  ⟨⟨bound, .unitsOfType⟩, value, some ⟨unitType, none⟩⟩

/-- A condition on the number of our units of a type in a disk. -/
def unitCountNear (bound : Bound) (value : Int64) (unitType : UnitType) (center : Point)
    (radius : Number.Single) : Condition :=
  ⟨⟨bound, .unitsOfTypeNear⟩, value, some ⟨unitType, some (center, radius * radius)⟩⟩

/-- The number of units that the condition counts. -/
def countUnits (condition : Condition) (snapshot : Snapshot) : Nat :=
  match condition.count with
  | some count => snapshot.ownUnits.countP count.counts
  | none => 0

/-- The metric that the condition bounds. -/
def measure (condition : Condition) (snapshot : Snapshot) : Int :=
  match condition.kind.metric with
  | .minerals => snapshot.minerals.toNat
  | .gas => snapshot.vespene.toNat
  | .time => snapshot.gameLoop.toInt64.toInt
  | .food => snapshot.foodUsed.toNat
  | .foodCap => snapshot.foodCap.toNat
  | .foodHeadroom => snapshot.foodHeadroom
  | .unitsOfType => condition.countUnits snapshot
  | .unitsOfTypeNear => condition.countUnits snapshot

/-- Whether the world meets the condition. -/
def isMet (condition : Condition) (snapshot : Snapshot) : Bool :=
  match condition.kind.bound with
  | .atLeast => decide (condition.value.toInt ≤ condition.measure snapshot)
  | .atMost => decide (condition.measure snapshot ≤ condition.value.toInt)

end Condition

end Skirmish
