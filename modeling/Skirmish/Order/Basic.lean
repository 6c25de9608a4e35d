import Skirmish.Error
import Skirmish.Order.Place
import Skirmish.Roster.Agent

/-!
# Orders

An order is an `Intent` with an id and with the agents that are carrying it out. The intent says who
is addressed, what they do and under which policy; an order that is locked keeps its intent.

* `Intent.pair` makes an intent of any valid pairing and refuses the others;
* the constructors behind it make the usual intents, which are valid by their form;
* the operations on `Order` that change its intent check the lock before anything else.
-/

namespace Skirmish

/-- Who an order is for. -/
inductive Assignee where
  /-- An agent that has nothing else to do. -/
  | fallback
  /-- Units of a type. -/
  | unitType (type : UnitType)
  /-- Agents with all of some capabilities. -/
  | flags (capabilities : KeySet Capability)
  /-- The agents in a group. -/
  | group (name : String)
deriving DecidableEq

namespace Assignee

/-- The kind of an assignee. -/
def kind : Assignee → AssigneeKind
  | fallback => .fallback
  | unitType _ => .unitType
  | flags _ => .flags
  | group _ => .group

end Assignee

/-- What is to be done. -/
inductive Action where
  /-- Use the ability without a target. -/
  | simple
  /-- Use the ability at a location. -/
  | exactLocation (place : Place)
  /-- Use the ability at a random point near a location. -/
  | nearLocation (place : Place)
  /-- Use the ability on a unit. -/
  | targetUnit (target : TargetUnit)
  /-- Gather from the mineral field nearest to a location. -/
  | harvestMineralsNear (place : Place)
  /-- Gather from the gas structure nearest to a location. -/
  | harvestGasNear (place : Place)
  /-- Put agents into a group or take them out of it. -/
  | groupEdit (group : String) (edit : GroupEdit)
deriving DecidableEq, Repr, Inhabited

namespace Action

/-- The kind of an action. -/
def kind : Action → ActionKind
  | simple => .simple
  | exactLocation _ => .exactLocation
  | nearLocation _ => .nearLocation
  | targetUnit _ => .targetUnit
  | harvestMineralsNear _ => .harvestMineralsNear
  | harvestGasNear _ => .harvestGasNear
  | groupEdit _ _ => .groupEdit

/-- The action at another place, if it has a place. -/
def moveTo? (action : Action) (place : Place) : Option Action :=
  match action with
  | exactLocation _ => some (exactLocation place)
  | nearLocation _ => some (nearLocation place)
  | harvestMineralsNear _ => some (harvestMineralsNear place)
  | harvestGasNear _ => some (harvestGasNear place)
  | simple | targetUnit _ | groupEdit _ _ => none

end Action

/-- How many units may be using the ability of an order at once. -/
inductive Multiplicity where
  /-- One. -/
  | exclusive
  /-- Any number. -/
  | allowMultiple
deriving DecidableEq, Repr, Inhabited

/-- The disk in which units have to stand to be chosen. -/
structure AssigneeScope where
  place : Place
  radius : Number.Single
deriving DecidableEq, Repr

/-- What an order is meant to do. -/
structure Intent where
  assignee : Assignee
  action : Action
  ability : Ability
  /-- The radius of the disk from which a point near the location is drawn. -/
  proximity : Number.Single
  /-- Where units have to stand to be chosen, if that matters. -/
  scope : Option AssigneeScope
  multiplicity : Multiplicity
  isLocked : Bool
  /-- The order that the chosen agents run next. -/
  followUp : Option OrderId
deriving DecidableEq

namespace Intent

/-- The proximity of an order that does not name one. -/
def defaultRadius : Number.Single := 12

/-- An exclusive intent that is open to changes and that nothing follows. -/
def plain (assignee : Assignee) (action : Action) (ability : Ability) : Intent where
  assignee := assignee
  action := action
  ability := ability
  proximity := defaultRadius
  scope := none
  multiplicity := .exclusive
  isLocked := false
  followUp := none

/-- Whether the assignee can do the action. -/
def isValid (intent : Intent) : Bool := intent.assignee.kind.canDo intent.action.kind

/-- Whether an assignee can do an action, or else the error that says that it cannot. -/
def checkPairing (assignee : Assignee) (action : Action) : Except Error Unit :=
  if assignee.kind.canDo action.kind then .ok ()
  else .error (.invalidPairing assignee.kind action.kind)

/-- The intent of a valid pairing. -/
def pair (assignee : Assignee) (action : Action) (ability : Ability) : Except Error Intent :=
  (checkPairing assignee action).map fun _ => plain assignee action ability

/-! ## Valid pairings -/

/-- The intent with another proximity. -/
def withRadius (intent : Intent) (radius : Number.Single) : Intent :=
  { intent with proximity := radius }

/-- The intent for units that stand within a radius of a place. -/
def withScope (intent : Intent) (place : Place) (radius : Number.Single) : Intent :=
  { intent with scope := some ⟨place, radius⟩ }

/-- The nearest unit of a type uses an ability at a place. -/
def unitTypeAt (type : UnitType) (ability : Ability) (place : Place) : Intent :=
  plain (.unitType type) (.exactLocation place) ability

/-- The nearest unit of a type uses an ability within a radius of a place. -/
def unitTypeNear (type : UnitType) (ability : Ability) (place : Place) (radius : Number.Single) :
    Intent :=
  (plain (.unitType type) (.nearLocation place) ability).withRadius radius

/-- The nearest unit of a type uses an ability on a unit. -/
def unitTypeOn (type : UnitType) (ability : Ability) (target : TargetUnit) : Intent :=
  plain (.unitType type) (.targetUnit target) ability

/-- A unit of a type that has nothing to do uses an ability without a target. -/
def unitTypeSimple (type : UnitType) (ability : Ability) : Intent :=
  plain (.unitType type) .simple ability

/-- An idle agent gathers minerals near a place. -/
def harvestMineralsNear (place : Place) : Intent :=
  plain .fallback (.harvestMineralsNear place) .smart

/-- An idle agent gathers gas near a place. -/
def harvestGasNear (place : Place) : Intent :=
  plain .fallback (.harvestGasNear place) .harvestGather

/-- Every agent with some capabilities that has nothing to do uses an ability at a place. -/
def flagsAt (capabilities : KeySet Capability) (ability : Ability) (place : Place) : Intent :=
  plain (.flags capabilities) (.exactLocation place) ability

/-- Every agent with some capabilities that has nothing to do uses an ability within a radius of a
place. -/
def flagsNear (capabilities : KeySet Capability) (ability : Ability) (place : Place)
    (radius : Number.Single) : Intent :=
  (plain (.flags capabilities) (.nearLocation place) ability).withRadius radius

/-- Every agent of a group that has nothing to do uses an ability within a radius of a place. -/
def groupNear (group : String) (ability : Ability) (place : Place) (radius : Number.Single) : Intent :=
  (plain (.group group) (.nearLocation place) ability).withRadius radius

/-- The agents of a type within a radius of a place join or leave a group. -/
def editGroup (type : UnitType) (group : String) (edit : GroupEdit) (place : Place)
    (radius : Number.Single) : Intent :=
  (plain (.unitType type) (.groupEdit group edit) .smart).withScope place radius

/-- Whether any number of units may be using the ability at once. -/
def allowsMultiple (intent : Intent) : Bool := intent.multiplicity = .allowMultiple

end Intent

/-- An intent with an id and with the agents that are carrying it out. -/
structure Order where
  id : OrderId
  intent : Intent
  assigned : KeySet UnitTag
deriving DecidableEq

namespace Order

/-- A new order, which nobody is carrying out. -/
def issue (id : OrderId) (intent : Intent) : Order := ⟨id, intent, .empty⟩

/-- The order with one more agent. -/
def assign (order : Order) (tag : UnitTag) : Order :=
  { order with assigned := order.assigned.insert tag }

/-- The order with one agent less. -/
def unassign (order : Order) (tag : UnitTag) : Order :=
  { order with assigned := order.assigned.erase tag }

/-- The order with its intent fixed. -/
def lock (order : Order) : Order := { order with intent := { order.intent with isLocked := true } }

/-! ## Changes of the intent -/

/-- The order with another intent, unless it is locked. -/
def revise (order : Order) (change : Intent → Except Error Intent) : Except Error Order :=
  if order.intent.isLocked then .error (.orderLocked order.id)
  else (change order.intent).map fun intent => { order with intent }

/-- Turn the order into one to fall back on. -/
def setFallback (order : Order) : Except Error Order :=
  order.revise fun intent => .ok { intent with assignee := .fallback }

/-- Let another order follow; at most one can. -/
def bundle (order : Order) (inner : OrderId) : Except Error Order :=
  order.revise fun intent =>
    match intent.followUp with
    | some _ => .error (.bundleOccupied order.id)
    | none => .ok { intent with followUp := some inner }

/-- Set how many units may be using the ability at once. -/
def setMultiplicity (order : Order) (multiplicity : Multiplicity) : Except Error Order :=
  order.revise fun intent => .ok { intent with multiplicity }

/-- Move the action to another place; only an action with a place can be moved. -/
def setTargetPlace (order : Order) (place : Place) : Except Error Order :=
  order.revise fun intent =>
    match intent.action.moveTo? place with
    | some action => .ok { intent with action }
    | none => .error (.noLocation order.id)

/-- Move the disk in which units have to stand. An order without one gets one with the radius of
its proximity. -/
def setScopePlace (order : Order) (place : Place) : Except Error Order :=
  order.revise fun intent =>
    let radius := match intent.scope with
      | some scope => scope.radius
      | none => intent.proximity
    .ok { intent with scope := some ⟨place, radius⟩ }

end Order

end Skirmish
