/-!
# Kinds of assignees and actions

An order pairs someone with something to do. Only some pairings make sense, and which ones depends
on the kinds of the two sides alone:

* units of a type do anything but harvest;
* the fallback of an agent harvests and does nothing else;
* agents with capabilities or in a group do whatever has a location.
-/

namespace Skirmish

/-- The ways to say who an order is for. -/
inductive AssigneeKind where
  | fallback
  | unitType
  | flags
  | group
deriving DecidableEq, Repr, Inhabited

/-- The ways to say what is to be done. -/
inductive ActionKind where
  | simple
  | exactLocation
  | nearLocation
  | targetUnit
  | harvestMineralsNear
  | harvestGasNear
  | groupEdit
deriving DecidableEq, Repr, Inhabited

namespace AssigneeKind

/-- The word for a kind in a message. -/
def title : AssigneeKind → String
  | fallback => "Default"
  | unitType => "UnitType"
  | flags => "Flags"
  | group => "Group"

end AssigneeKind

namespace ActionKind

/-- The word for a kind in a message. -/
def title : ActionKind → String
  | simple => "Simple"
  | exactLocation => "ExactLocation"
  | nearLocation => "NearLocation"
  | targetUnit => "TargetUnit"
  | harvestMineralsNear => "HarvestMineralsNear"
  | harvestGasNear => "HarvestGasNear"
  | groupEdit => "GroupEdit"

/-- Whether the action harvests something. -/
def harvests : ActionKind → Bool
  | harvestMineralsNear | harvestGasNear => true
  | _ => false

/-- Whether the action has a location. -/
def hasLocation : ActionKind → Bool
  | exactLocation | nearLocation | harvestMineralsNear | harvestGasNear => true
  | _ => false

end ActionKind

/-- Whether an order can pair the two. -/
def AssigneeKind.canDo : AssigneeKind → ActionKind → Bool
  | .unitType, action => !action.harvests
  | .fallback, action => action.harvests
  | .flags, action => action.hasLocation
  | .group, action => action.hasLocation

end Skirmish
