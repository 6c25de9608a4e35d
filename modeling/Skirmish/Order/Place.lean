import Skirmish.Map.Layout
import Skirmish.Ordered.Table
import Skirmish.World.Resources

/-!
# Places and targets

An order says how to find its location and not where it is: a `Place` is resolved anew every time
the order runs, so an order given early still aims at what is the newest base late in the game. In
the same way a `TargetUnit` says which unit an order is aimed at.

Places and unit types can be stored under names on the `Blackboard`.
-/

namespace Skirmish

/-- Locations and unit types that have been given names. -/
structure Blackboard where
  locations : Table String Point
  unitTypes : Table String UnitType

namespace Blackboard

/-- The blackboard with nothing on it. -/
def empty : Blackboard := ⟨.empty, .empty⟩

instance : Inhabited Blackboard := ⟨empty⟩

/-- Store a location under a name, instead of an earlier one. -/
def storeLocation (board : Blackboard) (name : String) (location : Point) : Blackboard :=
  { board with locations := board.locations.insert name location }

/-- Store a unit type under a name, instead of an earlier one. -/
def storeUnitType (board : Blackboard) (name : String) (unitType : UnitType) : Blackboard :=
  { board with unitTypes := board.unitTypes.insert name unitType }

end Blackboard

/-- How to find a location. -/
inductive Place where
  | literal (point : Point)
  | startLocation
  | proxyLocation
  | townhall (base : UInt64)
  | buildArea (base index : UInt64)
  | defendPoint (base index : UInt64)
  | rallyPoint (base : UInt64)
  /-- The townhall of the active base with the highest index. -/
  | newestActiveBase
  /-- A location on the blackboard. -/
  | stored (name : String)
deriving DecidableEq, Repr, Inhabited

/-- The location that a place stands for now, if there is one. -/
def Place.resolve (place : Place) (layout : Layout) (board : Blackboard) : Option Point :=
  match place with
  | .literal point => some point
  | .startLocation => some layout.startLocation
  | .proxyLocation => some layout.proxy
  | .townhall base => (layout.base? base).map (·.townhall)
  | .buildArea base index => (layout.base? base).bind fun b => b.buildAreas[index.toNat]?
  | .defendPoint base index => (layout.base? base).bind fun b => b.defendPoints[index.toNat]?
  | .rallyPoint base => (layout.base? base).map (·.rallyPoint)
  | .newestActiveBase => layout.newestActive.map fun entry => entry.1.townhall
  | .stored name => board.locations.get? name

/-- How to find the unit that an order is aimed at. -/
inductive TargetUnit where
  | unit (tag : UnitTag)
  /-- The finished unit of our own with the type that has the smallest tag. -/
  | ofType (type : UnitType)
  /-- The same, with a type on the blackboard. -/
  | storedType (name : String)
deriving DecidableEq, Repr, Inhabited

/-- The finished unit of our own with a type that has the smallest tag. -/
def Snapshot.firstOfType? (snapshot : Snapshot) (type : UnitType) : Option UnitView :=
  least (fun a b => Key.precedes a.tag b.tag)
    (snapshot.ownUnits.filter fun unit => unit.unitType = type && unit.isComplete)

/-- The unit that a target stands for now, if there is one. -/
def TargetUnit.resolve (target : TargetUnit) (snapshot : Snapshot) (board : Blackboard) :
    Option UnitView :=
  match target with
  | .unit tag => snapshot.unit? tag
  | .ofType type => snapshot.firstOfType? type
  | .storedType name => (board.unitTypes.get? name).bind snapshot.firstOfType?

end Skirmish
