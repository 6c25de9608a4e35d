import Skirmish.Catalog.UnitType
import Skirmish.Catalog.Upgrade
import Skirmish.World.Command

/-!
# Snapshots

A snapshot is what the simulation shows of the world at one tick: the resources, the upgrades and
every visible unit. Nothing in this library changes a snapshot.
-/

namespace Skirmish

/-- The side of a unit. -/
inductive Alliance where
  | own
  | ally
  | neutral
  | enemy
deriving DecidableEq, Repr, Inhabited

/-- Something a unit is doing or is going to do. -/
structure Activity where
  ability : Ability
  target : CommandTarget
deriving DecidableEq, Repr, Inhabited

namespace Activity

/-- The use of an ability without a target. -/
def untargeted (ability : Ability) : Activity := ⟨ability, .nothing⟩

end Activity

/-- A unit as it is seen at one tick. -/
structure UnitView where
  tag : UnitTag
  unitType : UnitType
  alliance : Alliance
  position : Point
  /-- What the unit is doing, and then what it is going to do. -/
  activities : List Activity
  health : Number.Single
  healthMax : Number.Single
  isFlying : Bool
  isStructure : Bool
  buildProgress : Number.Single
  /-- The abilities that the unit could use now. -/
  available : List Ability
deriving DecidableEq, Repr

namespace UnitView

/-- The health of a unit of which nothing is said. -/
def fullHealth : Number.Single := 100

/-- The progress of a finished unit. -/
def finished : Number.Single := 1

/-- A finished unit of our own that does nothing. -/
def ofType (tag : UnitTag) (unitType : UnitType) (position : Point) : UnitView where
  tag := tag
  unitType := unitType
  alliance := .own
  position := position
  activities := []
  health := fullHealth
  healthMax := fullHealth
  isFlying := false
  isStructure := false
  buildProgress := finished
  available := []

/-- Whether the unit is on our side. -/
def isOwn (unit : UnitView) : Bool := unit.alliance = .own

/-- Whether the unit is doing or going to do something with an ability. -/
def isUsing (unit : UnitView) (ability : Ability) : Bool :=
  unit.activities.any (·.ability = ability)

/-- Whether the unit is finished. -/
def isComplete (unit : UnitView) : Bool := decide (finished ≤ unit.buildProgress)

/-- The health that is left, as a fraction; zero for a unit that can have none. -/
def healthFraction (unit : UnitView) : Number.Single :=
  if unit.healthMax ≤ 0 then 0 else unit.health / unit.healthMax

/-- The unit as a candidate for a choice by distance. -/
def candidate (unit : UnitView) : UnitTag × Point := (unit.tag, unit.position)

end UnitView

/-- The world at one tick. -/
structure Snapshot where
  gameLoop : UInt64
  minerals : UInt32
  vespene : UInt32
  foodUsed : UInt32
  foodCap : UInt32
  upgrades : List Upgrade
  units : List UnitView
deriving DecidableEq, Repr

namespace Snapshot

/-- The world before anything is known about it. -/
def blank : Snapshot := ⟨0, 0, 0, 0, 0, [], []⟩

instance : Inhabited Snapshot := ⟨blank⟩

/-- The units on our side, in the order in which they are listed. -/
def ownUnits (snapshot : Snapshot) : List UnitView := snapshot.units.filter (·.isOwn)

/-- The units on no side, in the order in which they are listed. -/
def neutralUnits (snapshot : Snapshot) : List UnitView :=
  snapshot.units.filter fun unit => unit.alliance = .neutral

/-- The unit with a tag, the first one listed. -/
def unit? (snapshot : Snapshot) (tag : UnitTag) : Option UnitView :=
  snapshot.units.find? fun unit => unit.tag = tag

/-- Whether an upgrade has been researched. -/
def hasUpgrade (snapshot : Snapshot) (upgrade : Upgrade) : Bool :=
  snapshot.upgrades.contains upgrade

/-- The food that is still free, negative beyond the cap. -/
def foodHeadroom (snapshot : Snapshot) : Int :=
  (snapshot.foodCap.toNat : Int) - snapshot.foodUsed.toNat

end Snapshot

end Skirmish
