import Skirmish.Order.Basic
import Skirmish.Random.Basic
import Skirmish.Roster.Basic

/-!
# Dispatching

While orders run, some things stand still and some move on. A `Situation` is what stands still: the
snapshot, the map and the blackboard. A `Dispatch` is what moves on: the roster, the commands issued
so far, the random numbers, and the list of releases.

A release says that an agent has left an order for another one. The order that it has left is not at
hand while the other one runs, so the release is only noted, and whoever keeps the orders takes the
agent off it afterwards.
-/

namespace Skirmish

/-- What the running of orders depends on and does not change. -/
structure Situation where
  snapshot : Snapshot
  layout : Layout
  blackboard : Blackboard
  /-- Within this distance a gas structure claims a geyser. -/
  claimRadius : Number.Single

/-- What the running of orders changes. -/
structure Dispatch where
  roster : Roster
  outbox : Outbox
  random : Random
  released : List (OrderId × UnitTag)

namespace Situation

/-- The claim radius unless another one is given. -/
def defaultClaimRadius : Number.Single := 1

/-- The location that a place stands for. -/
def locate (situation : Situation) (place : Place) : Option Point :=
  place.resolve situation.layout situation.blackboard

/-- The unit that a target stands for. -/
def target (situation : Situation) (target : TargetUnit) : Option UnitView :=
  target.resolve situation.snapshot situation.blackboard

end Situation

namespace Outbox

variable (outbox : Outbox)

/-- Whether one of our units uses an ability, or has been told to. -/
def inFlight (snapshot : Snapshot) (ability : Ability) : Bool :=
  snapshot.ownUnits.any (·.isUsing ability) || outbox.uses ability

/-- The number of things that a unit is doing, is going to do or has been told to do. -/
def pendingFor (unit : UnitView) : Nat := unit.activities.length + outbox.countFor unit.tag

/-- Whether a unit is building a structure, or has been told to. -/
def isConstructing (unit : UnitView) : Bool :=
  unit.activities.any (·.ability.buildsStructure)
    || outbox.any fun command => command.addresses unit.tag && command.ability.buildsStructure

end Outbox

end Skirmish
