import Skirmish.Proofs.Roster.Role

/-!
# What an agent is for life

An agent keeps its type, its category and the two places that it got when it was put on the roster,
and it keeps some of what it can do: `Agent.identity` collects all this. The other capabilities come
and go with what the agent is doing.
-/

namespace Skirmish

/-- Whether an agent has or lacks a capability for life. -/
def Capability.isLasting : Capability → Bool
  | worker | army | building | townhall | flying => true
  | mineralGatherer | gasGatherer | placingGas | defense => false

/-- A lasting capability is none that comes and goes. -/
theorem Capability.ne_of_isLasting {capability other : Capability}
    (lasting : other.isLasting = true) (h : capability.isLasting = false) :
    other ≠ capability := by
  rintro rfl
  rw [h] at lasting
  cases lasting

/-- What stays the same of an agent. -/
structure Identity where
  unitType : UnitType
  category : Category
  home : Point
  post : Point
  isWorker : Bool
  isArmy : Bool
  isBuilding : Bool
  isTownhall : Bool
  isFlying : Bool
deriving DecidableEq

namespace Agent

/-- What stays the same of the agent. -/
def identity (agent : Agent) : Identity where
  unitType := agent.unitType
  category := agent.category
  home := agent.home
  post := agent.post
  isWorker := agent.can .worker
  isArmy := agent.can .army
  isBuilding := agent.can .building
  isTownhall := agent.can .townhall
  isFlying := agent.can .flying

variable {capability : Capability}

/-- An agent that keeps its lasting capabilities, and all but its capabilities, stays who it is. -/
theorem identity_eq_of_can_eq {agent changed : Agent}
    (same : changed = { agent with capabilities := changed.capabilities })
    (h : ∀ other : Capability, other.isLasting = true → changed.can other = agent.can other) :
    changed.identity = agent.identity := by
  rw [identity, h .worker rfl, h .army rfl, h .building rfl, h .townhall rfl, h .flying rfl, same]
  rfl

theorem identity_gain (agent : Agent) (h : capability.isLasting = false) :
    (agent.gain capability).identity = agent.identity := by
  refine identity_eq_of_can_eq rfl fun other lasting => ?_
  rw [can_gain, decide_eq_false (Capability.ne_of_isLasting lasting h), Bool.false_or]

theorem identity_lose (agent : Agent) (h : capability.isLasting = false) :
    (agent.lose capability).identity = agent.identity := by
  refine identity_eq_of_can_eq rfl fun other lasting => ?_
  rw [can_lose, decide_eq_true (Capability.ne_of_isLasting lasting h), Bool.true_and]

theorem identity_edit (agent : Agent) (group : String) (edit : GroupEdit) :
    (agent.edit group edit).identity = agent.identity := by
  cases edit <;> rfl

/-- To take up an order leaves the identity alone. -/
theorem identity_takenUpBy (order : Order) (agent : Agent) :
    (order.takenUpBy agent).identity = agent.identity :=
  Order.view_takenUpBy (fun _ _ => rfl) (fun _ _ => rfl)
    (fun agent => agent.identity_gain rfl) order agent

/-- Whether an agent is as it is when it is put on the roster: idle, in no group, and with no order
that it carries out or runs next. -/
structure IsNewcomer (agent : Agent) : Prop where
  isIdle : agent.isIdle = true
  current : agent.current = none
  followUp : agent.followUp = none
  groups : agent.groups = .empty

/-- What is made of a unit is a newcomer. -/
theorem isNewcomer_ofUnit (unit : UnitView) : (Agent.ofUnit unit).IsNewcomer := by
  unfold Agent.ofUnit
  cases unit.isFlying <;> exact ⟨rfl, rfl, rfl, rfl⟩

end Agent

end Skirmish
