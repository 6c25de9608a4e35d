import Skirmish.Ordered.KeySet

/-!
# Categories and capabilities

Every agent belongs to one category for life. Its capabilities start with those of the category and
follow what the agent is doing.
-/

namespace Skirmish

/-- The role of an agent. -/
inductive Category where
  | worker
  | army
  | building
  | townhall
deriving DecidableEq, Repr, Inhabited

/-- A property by which agents are addressed. -/
inductive Capability where
  | worker
  | army
  | building
  | townhall
  | mineralGatherer
  | gasGatherer
  /-- Is on its way to place a gas structure, or has placed one. -/
  | placingGas
  | flying
  | defense
deriving DecidableEq, Repr, Inhabited

namespace Capability

/-- The position in the order in which capabilities are listed. -/
def rank : Capability → Nat
  | worker => 0
  | army => 1
  | building => 2
  | townhall => 3
  | mineralGatherer => 4
  | gasGatherer => 5
  | placingGas => 6
  | flying => 7
  | defense => 8

instance : Key Capability := Key.ofRank rank fun {a b} h => by
  cases a <;> cases b <;> first | rfl | simp [rank] at h

end Capability

/-- The capabilities with which an agent of a category starts. -/
def Category.capabilities : Category → KeySet Capability
  | .worker => .ofList [.worker, .mineralGatherer]
  | .army => .ofList [.army]
  | .building => .ofList [.building]
  | .townhall => .ofList [.building, .townhall]

end Skirmish
