import Skirmish.Order.Selection

/-!
# Running orders

There are two ways to run an order. `Order.execute` lets the order address units by itself and is
the way of rules; `Order.executeFor` runs it for one agent and is the way of agents that are idle.
Both say whether the order did anything; that there is nothing to do is no error.

Either way, every commanded unit gets a command of its own, and every commanded agent is recorded:
it works on the order, the order lists it, and the order that it has left is noted for release.
-/

namespace Skirmish

/-- What comes of running an order. -/
structure Execution where
  /-- Whether a command was issued or a membership changed. -/
  issued : Bool
  order : Order
  dispatch : Dispatch

namespace Order

/-! ## Recording -/

/-- An agent that takes up an order: it works on it, runs the order that follows when it is idle
again, and is placing gas if that is what the order does. -/
def takenUpBy (order : Order) (agent : Agent) : Agent :=
  let agent := agent.workOn order.id
  let agent := match order.intent.followUp with
    | some next => agent.thenRun next
    | none => agent
  if order.intent.ability.buildsGasStructure then agent.gain .placingGas else agent

/-- Record that a unit has been commanded. A unit that is not on the roster leaves no trace. -/
def record (order : Order) (dispatch : Dispatch) (tag : UnitTag) : Order × Dispatch :=
  match dispatch.roster.get? tag with
  | none => (order, dispatch)
  | some agent =>
    -- An order that the agent is given once more is not left.
    let left := agent.current.toList.filter fun previous => previous ≠ order.id
    (order.assign tag,
      { dispatch with
        roster := dispatch.roster.insert tag (order.takenUpBy agent)
        released := dispatch.released ++ left.map fun previous => (previous, tag) })

/-- Record several commanded units, one after the other. -/
def recordAll (order : Order) (dispatch : Dispatch) (tags : List UnitTag) : Order × Dispatch :=
  tags.foldl (fun (order, dispatch) tag => order.record dispatch tag) (order, dispatch)

/-- The command for a unit that has been given a target. -/
def command (order : Order) (choice : UnitTag × CommandTarget) : Command :=
  .single choice.1 order.intent.ability choice.2

/-- Command the chosen units, and then record them. -/
def commit (order : Order) (dispatch : Dispatch) (choices : List (UnitTag × CommandTarget))
    (random : Random) : Execution :=
  let dispatch :=
    { dispatch with outbox := dispatch.outbox ++ choices.map order.command, random }
  let (order, dispatch) := order.recordAll dispatch (choices.map (·.1))
  ⟨!choices.isEmpty, order, dispatch⟩

/-! ## The two ways -/

/-- The agents whose membership an order for units of a type edits. -/
def editsMember (order : Order) (situation : Situation) (agent : Agent) : Bool :=
  match order.intent.assignee with
  | .unitType type =>
    agent.unitType = type && (order.intent.area situation).contains agent.position
  | _ => false

/-- Run an order for the units that it addresses by itself. -/
def execute (order : Order) (situation : Situation) (dispatch : Dispatch) : Execution :=
  match order.intent.action with
  | .groupEdit group edit =>
    let (changed, roster) :=
      dispatch.roster.editMembers (order.editsMember situation) group edit
    ⟨changed, order, { dispatch with roster }⟩
  | _ =>
    let (choices, random) := order.intent.assignments situation dispatch
    order.commit dispatch choices random

/-- Whether an order for one agent has to wait because its ability is in flight. That holds back
only orders that are aimed at a location or at a unit. -/
def mustWaitFor (order : Order) (situation : Situation) (outbox : Outbox) : Bool :=
  match order.intent.action with
  | .exactLocation _ | .nearLocation _ | .targetUnit _ => order.intent.mustWait situation outbox
  | _ => false

/-- Run an order for one agent. -/
def executeFor (order : Order) (situation : Situation) (dispatch : Dispatch) (tag : UnitTag) :
    Execution :=
  match order.intent.action with
  | .groupEdit group edit =>
    let (changed, roster) := dispatch.roster.editMember tag group edit
    ⟨changed, order, { dispatch with roster }⟩
  | _ =>
    if order.mustWaitFor situation dispatch.outbox then ⟨false, order, dispatch⟩
    else
      let (target, random) := order.intent.target situation dispatch.random
      order.commit dispatch (target.toList.map fun target => (tag, target)) random

end Order

end Skirmish
