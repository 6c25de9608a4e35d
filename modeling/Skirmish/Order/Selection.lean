import Skirmish.Map.Disk
import Skirmish.Order.Dispatch

/-!
# Who does what

Running an order first settles the targets and the units that get them. This module makes those
decisions; `Skirmish.Order.Execution` carries them out.

* `Intent.aimAt` turns a place into an aim. An ability that places a gas structure aims at the
  nearest free geyser; otherwise an order for a nearby location draws a point of its disk.
* `Intent.target` is the target that an agent gets.
* `Intent.assignments` lists the units that the order addresses by itself, each with its target.

Random numbers are drawn as soon as a place is known, also for an order that then finds nobody.
-/

namespace Skirmish

/-- What a command is aimed at, and the point by which units are ranked. -/
structure Aim where
  target : CommandTarget
  point : Point
deriving DecidableEq, Repr

/-- Where units have to stand to be chosen. -/
inductive Area where
  | everywhere
  /-- Closer to a center than a radius. -/
  | within (center : Point) (radius : Number.Single)
  | nowhere
deriving DecidableEq, Repr

/-- Whether a position is in an area. -/
def Area.contains : Area → Point → Bool
  | everywhere, _ => true
  | within center radius, position =>
    decide (position.distanceSquared center < radius * radius)
  | nowhere, _ => false

namespace Intent

/-- Where units have to stand for the order; nowhere, if the place of the scope is unknown. -/
def area (intent : Intent) (situation : Situation) : Area :=
  match intent.scope with
  | none => .everywhere
  | some scope =>
    match situation.locate scope.place with
    | some center => .within center scope.radius
    | none => .nowhere

/-- Whether the order has to wait because its ability is in flight. -/
def mustWait (intent : Intent) (situation : Situation) (outbox : Outbox) : Bool :=
  !intent.allowsMultiple && outbox.inFlight situation.snapshot intent.ability

/-! ## Targets -/

/-- The point at which an order for a location aims, once the location is known. -/
def pointNear (intent : Intent) (center : Point) (random : Random) : Point × Random :=
  match intent.action with
  | .nearLocation _ => random.pointInDisk center intent.proximity
  | _ => (center, random)

/-- The aim of an order for a location, if the place is known and, for a gas structure, some geyser
is free. -/
def aimAt (intent : Intent) (situation : Situation) (place : Place) (random : Random) :
    Option Aim × Random :=
  match situation.locate place with
  | none => (none, random)
  | some center =>
    -- A gas structure stands on its geyser, so no point is drawn for it.
    if intent.ability.buildsGasStructure then
      ((situation.snapshot.nearestFreeGeyser? center situation.claimRadius).map fun geyser =>
        ⟨.unit geyser.tag, geyser.position⟩, random)
    else
      let (point, random) := intent.pointNear center random
      (some ⟨.point point, point⟩, random)

/-- The target that an agent gets from the order, if the order has one now. -/
def target (intent : Intent) (situation : Situation) (random : Random) :
    Option CommandTarget × Random :=
  match intent.action with
  | .simple => (some .nothing, random)
  | .exactLocation place | .nearLocation place =>
    let (aim, random) := intent.aimAt situation place random
    (aim.map (·.target), random)
  | .targetUnit target => ((situation.target target).map fun unit => .unit unit.tag, random)
  | .harvestMineralsNear place =>
    (((situation.locate place).bind situation.snapshot.nearestMineralPatch?).map
      fun patch => .unit patch.tag, random)
  | .harvestGasNear place =>
    (((situation.locate place).bind situation.snapshot.nearestGasStructure?).map
      fun gas => .unit gas.tag, random)
  | .groupEdit _ _ => (none, random)

/-! ## Units of a type -/

/-- Whether a unit of ours is of a type, finished and where the order wants it. -/
def suits (intent : Intent) (situation : Situation) (type : UnitType) (unit : UnitView) : Bool :=
  unit.unitType = type && unit.isComplete && (intent.area situation).contains unit.position

/-- The units that can be sent to an aim: those that suit and are not building anything. -/
def builders (intent : Intent) (situation : Situation) (outbox : Outbox) (type : UnitType) :
    List UnitView :=
  situation.snapshot.ownUnits.filter fun unit =>
    intent.suits situation type unit && !outbox.isConstructing unit

/-- The unit that is sent to an aim, unless the order has to wait. -/
def nearestBuilder (intent : Intent) (situation : Situation) (outbox : Outbox) (type : UnitType)
    (aim : Aim) : Option (UnitTag × CommandTarget) :=
  if intent.mustWait situation outbox then none
  else
    (nearestTo aim.point ((intent.builders situation outbox type).map (·.candidate))).map
      fun tag => (tag, aim.target)

/-- The units that can be told to use an ability without a target: those that suit and have nothing
to do. -/
def freeUnits (intent : Intent) (situation : Situation) (outbox : Outbox) (type : UnitType) :
    List UnitView :=
  situation.snapshot.ownUnits.filter fun unit =>
    intent.suits situation type unit && outbox.pendingFor unit = 0

/-- The unit with nothing to do that has the smallest tag. -/
def firstFree (intent : Intent) (situation : Situation) (outbox : Outbox) (type : UnitType) :
    Option (UnitTag × CommandTarget) :=
  (least (fun a b => Key.precedes a b)
    ((intent.freeUnits situation outbox type).map (·.tag))).map fun tag => (tag, .nothing)

/-- The unit of a type that the order addresses, with its target. -/
def assignment (intent : Intent) (situation : Situation) (dispatch : Dispatch) (type : UnitType) :
    Option (UnitTag × CommandTarget) × Random :=
  match intent.action with
  | .simple => (intent.firstFree situation dispatch.outbox type, dispatch.random)
  | .exactLocation place | .nearLocation place =>
    let (aim, random) := intent.aimAt situation place dispatch.random
    (aim.bind (intent.nearestBuilder situation dispatch.outbox type), random)
  | .targetUnit target =>
    ((situation.target target).bind fun unit =>
      intent.nearestBuilder situation dispatch.outbox type ⟨.unit unit.tag, unit.position⟩,
      dispatch.random)
  | .harvestMineralsNear _ | .harvestGasNear _ | .groupEdit _ _ => (none, dispatch.random)

/-! ## Agents -/

/-- Whether an agent can be told something: its unit is in the snapshot, has nothing to do and is
where the order wants it. -/
def isFree (intent : Intent) (situation : Situation) (outbox : Outbox) (tag : UnitTag) : Bool :=
  match situation.snapshot.unit? tag with
  | some unit => outbox.pendingFor unit = 0 && (intent.area situation).contains unit.position
  | none => false

/-- Give every agent of a list its own target. -/
def targetEach (intent : Intent) (situation : Situation) :
    List UnitTag → Random → List (UnitTag × CommandTarget) × Random
  | [], random => ([], random)
  | tag :: tags, random =>
    -- Agents that are sent near a location each draw a point of their own.
    let (target, random) := intent.target situation random
    let (rest, random) := intent.targetEach situation tags random
    match target with
    | some target => ((tag, target) :: rest, random)
    | none => (rest, random)

/-- The units that the order addresses by itself, each with its target. -/
def assignments (intent : Intent) (situation : Situation) (dispatch : Dispatch) :
    List (UnitTag × CommandTarget) × Random :=
  match intent.assignee with
  | .fallback => ([], dispatch.random)
  | .unitType type =>
    let (choice, random) := intent.assignment situation dispatch type
    (choice.toList, random)
  | .flags capabilities =>
    intent.targetEach situation
      ((dispatch.roster.withAll capabilities).filter (intent.isFree situation dispatch.outbox))
      dispatch.random
  | .group name =>
    intent.targetEach situation
      ((dispatch.roster.members name).filter (intent.isFree situation dispatch.outbox))
      dispatch.random

end Intent

end Skirmish
