import Skirmish.Error
import Skirmish.Ordered.Table
import Skirmish.Roster.Agent
import Skirmish.World.Snapshot

/-!
# The roster

The roster holds the agents by their tags. A tag that is on the roster keeps its agent until it is
taken off: a second registration is refused.
-/

namespace Skirmish

/-- The agents under our control. -/
abbrev Roster := Table UnitTag Agent

namespace Roster

/-- The roster with one more agent, unless the tag is on it already. -/
def enlist (roster : Roster) (tag : UnitTag) (agent : Agent) : Roster :=
  if roster.contains tag then roster else roster.insert tag agent

/-- The agent with a tag. -/
def find (roster : Roster) (tag : UnitTag) : Except Error Agent :=
  match roster.get? tag with
  | some agent => .ok agent
  | none => .error (.agentNotFound tag)

/-- The roster after a change to the agent with a tag. -/
def update (roster : Roster) (tag : UnitTag) (change : Agent → Agent) : Except Error Roster :=
  match roster.get? tag with
  | some agent => .ok (roster.insert tag (change agent))
  | none => .error (.agentNotFound tag)

/-- The tags of the agents that pass a test, ascending. -/
def tagsOf (roster : Roster) (test : Agent → Bool) : List UnitTag :=
  (roster.entries.filter fun entry => test entry.2).map (·.1)

/-- The agents that are idle. -/
def idle (roster : Roster) : List UnitTag := roster.tagsOf (·.isIdle)

/-- The agents with a capability. -/
def withCapability (roster : Roster) (capability : Capability) : List UnitTag :=
  roster.tagsOf (·.can capability)

/-- The agents with every one of some capabilities. -/
def withAll (roster : Roster) (capabilities : KeySet Capability) : List UnitTag :=
  roster.tagsOf fun agent => capabilities.isSubset agent.capabilities

/-- The agents with at least one of some capabilities. -/
def withAny (roster : Roster) (capabilities : KeySet Capability) : List UnitTag :=
  roster.tagsOf fun agent => agent.capabilities.meets capabilities

/-- The agents in a group. -/
def members (roster : Roster) (group : String) : List UnitTag := roster.tagsOf (·.inGroup group)

/-- The agents that pass a test, as candidates for a choice by distance. -/
def candidates (roster : Roster) (test : Agent → Bool) : List (UnitTag × Point) :=
  (roster.entries.filter fun entry => test entry.2).map fun entry => (entry.1, entry.2.position)

/-- Move every agent to where the snapshot shows its unit among our own. -/
def syncPositions (roster : Roster) (snapshot : Snapshot) : Roster :=
  snapshot.ownUnits.foldl
    (fun roster unit => roster.modify unit.tag fun agent => { agent with position := unit.position })
    roster

/-- Change the membership of one agent in a group, and say whether that changed anything. -/
def editMember (roster : Roster) (tag : UnitTag) (group : String) (edit : GroupEdit) :
    Bool × Roster :=
  match roster.get? tag with
  | some agent => (agent.isChangedBy group edit, roster.insert tag (agent.edit group edit))
  | none => (false, roster)

/-- Change the membership of one more agent, and say whether anything has changed so far. -/
def editNext (group : String) (edit : GroupEdit) (done : Bool × Roster) (tag : UnitTag) :
    Bool × Roster :=
  let (changed, roster) := done.2.editMember tag group edit
  (done.1 || changed, roster)

/-- Change the membership of every agent that passes a test, one after the other, and say whether
that changed anything. -/
def editMembers (roster : Roster) (test : Agent → Bool) (group : String) (edit : GroupEdit) :
    Bool × Roster :=
  (roster.tagsOf test).foldl (editNext group edit) (false, roster)

end Roster

end Skirmish
