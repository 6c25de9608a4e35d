import Skirmish.Catalog.UnitType
import Skirmish.Map.Point
import Skirmish.Order.OrderId
import Skirmish.Roster.Capability

/-!
# Agents

An agent is a unit under our control. It remembers where it belongs, what it can do, which groups it
is in, and up to three orders: the one it is carrying out, the one that follows when it is idle, and
the one it falls back on whenever nothing follows.
-/

namespace Skirmish

/-- Whether an agent is put into a group or taken out of it. -/
inductive GroupEdit where
  | add
  | remove
deriving DecidableEq, Repr, Inhabited

/-- A unit under our control. -/
structure Agent where
  unitType : UnitType
  category : Category
  /-- Where the agent was last seen. -/
  position : Point
  /-- The base that the agent belongs to. -/
  home : Point
  /-- The location that was assigned to the agent. -/
  post : Point
  capabilities : KeySet Capability
  groups : KeySet String
  /-- The order that the agent is carrying out. -/
  current : Option OrderId
  /-- The order that the agent runs next, once. -/
  followUp : Option OrderId
  /-- The order that the agent runs when nothing follows. -/
  fallback : Option OrderId
  isIdle : Bool

namespace Agent

/-- A new agent: idle, without orders and groups, at home where it stands. -/
def recruit (unitType : UnitType) (category : Category) (position : Point) : Agent where
  unitType := unitType
  category := category
  position := position
  home := position
  post := position
  capabilities := category.capabilities
  groups := .empty
  current := none
  followUp := none
  fallback := none
  isIdle := true

/-- Whether the agent has a capability. -/
def can (agent : Agent) (capability : Capability) : Bool := agent.capabilities.contains capability

/-- The agent with a capability. -/
def gain (agent : Agent) (capability : Capability) : Agent :=
  { agent with capabilities := agent.capabilities.insert capability }

/-- The agent without a capability. -/
def lose (agent : Agent) (capability : Capability) : Agent :=
  { agent with capabilities := agent.capabilities.erase capability }

/-- Whether the agent is in a group. -/
def inGroup (agent : Agent) (group : String) : Bool := agent.groups.contains group

/-- The agent after a change of its membership in a group. -/
def edit (agent : Agent) (group : String) : GroupEdit → Agent
  | .add => { agent with groups := agent.groups.insert group }
  | .remove => { agent with groups := agent.groups.erase group }

/-- Whether an edit changes the membership of the agent. -/
def isChangedBy (agent : Agent) (group : String) : GroupEdit → Bool
  | .add => !agent.inGroup group
  | .remove => agent.inGroup group

/-- The agent with an order to fall back on. -/
def fallBackOn (agent : Agent) (order : OrderId) : Agent := { agent with fallback := some order }

/-- The agent with an order that follows, unless one is waiting already. -/
def thenRun (agent : Agent) (order : OrderId) : Agent :=
  { agent with followUp := agent.followUp <|> some order }

/-- The order that the agent runs when it is idle: the one that follows, or else the one to fall
back on. -/
def upcoming (agent : Agent) : Option OrderId := agent.followUp <|> agent.fallback

/-- The agent with no order that follows. -/
def withoutFollowUp (agent : Agent) : Agent := { agent with followUp := none }

/-- The agent marked as idle or as busy. -/
def mark (agent : Agent) (isIdle : Bool) : Agent := { agent with isIdle }

/-- The agent without the order that it is carrying out. -/
def leaveOrder (agent : Agent) : Agent := { agent with current := none }

/-- The agent with nothing to do. -/
def rest (agent : Agent) : Agent := (agent.mark true).leaveOrder

/-- The agent at work on an order. -/
def workOn (agent : Agent) (order : OrderId) : Agent :=
  { agent with current := some order, isIdle := false }

end Agent

end Skirmish
