import Skirmish.Proofs.Session.IdlePhase

/-!
# What a tick leaves of an agent

In a tick agents are seen at new positions, use up what follows, take up orders, and join and leave
groups. A view of agents that shows none of this is steady (`Agent.Steady`), and what it shows of an
agent is the same after a tick as it was before (`view?_playTick`).
-/

namespace Skirmish

/-- Whether a view shows nothing of an agent that a tick can change. -/
structure Agent.Steady {α : Type} (view : Agent → α) : Prop where
  position : ∀ agent position, view { agent with position } = view agent
  withoutFollowUp : ∀ agent, view agent.withoutFollowUp = view agent
  edit : ∀ agent group edit, view (Agent.edit agent group edit) = view agent
  takenUpBy : ∀ order agent, view (Order.takenUpBy order agent) = view agent

namespace Session

variable {α : Type} {view : Agent → α} {session : Session}

/-- Performing an order does not change a steady view of the roster. -/
theorem view?_perform (steady : Agent.Steady view) (order : Order) (situation : Situation)
    (dispatch : Dispatch) (agent : Option UnitTag) :
    (order.perform situation dispatch agent).dispatch.roster.view? view =
      dispatch.roster.view? view := by
  -- An order either edits groups or is taken up, and the view shows neither.
  rcases order.perform_cases situation dispatch agent with ⟨group, edit, haction⟩ | hcommit
  · cases agent with
    | some tag =>
      simp only [Order.perform, Order.executeFor, haction]
      exact Roster.view?_editMember steady.edit _ _ _ _
    | none =>
      simp only [Order.perform, Order.execute, haction]
      exact Roster.view?_editMembers steady.edit _ _ _ _
  · rw [hcommit]
    funext tag
    rw [Roster.view?, Roster.view?, Order.get?_commit]
    split
    · rw [Option.map_map]
      exact congrArg (Option.map · _) (funext (steady.takenUpBy order))
    · rfl

/-- A run does not change a steady view of the roster. -/
theorem view?_run (steady : Agent.Steady view) (session : Session) (snapshot : Snapshot)
    (id : OrderId) (agent : Option UnitTag) :
    (session.run snapshot id agent).2.roster.view? view = session.roster.view? view := by
  cases hid : session.book.orders.get? id with
  | none => rw [run_of_missing hid]
  | some order =>
    rw [run_of_stored hid]
    exact view?_perform steady order _ _ agent

/-- The queue does not change a steady view of the roster. -/
theorem view?_runQueue (steady : Agent.Steady view) (snapshot : Snapshot)
    (queue : List (UnitTag × OrderId)) (session : Session) :
    (runQueue snapshot queue session).2.roster.view? view = session.roster.view? view := by
  induction queue generalizing session with
  | nil => rfl
  | cons entry queue ih =>
    have hpopped : (session.modifyAgent entry.1 (·.withoutFollowUp)).roster.view? view =
        session.roster.view? view := Roster.view?_modify steady.withoutFollowUp
    rw [runQueue_cons, ih, turn, view?_run steady]
    exact hpopped

/-- The rules do not change a steady view of the roster. -/
theorem view?_runRules (steady : Agent.Steady view) (snapshot : Snapshot) (ids : List OrderId)
    (session : Session) :
    (runRules snapshot ids session).2.roster.view? view = session.roster.view? view := by
  induction ids generalizing session with
  | nil => rfl
  | cons id ids ih => exact (ih _).trans (view?_run steady session snapshot id none)

/-- **What a steady view shows of an agent is the same after a tick.** -/
theorem view?_playTick (steady : Agent.Steady view) (session : Session) (snapshot : Snapshot) :
    (session.playTick snapshot).session.roster.view? view = session.roster.view? view := by
  have hrules := view?_runRules steady snapshot ((session.between snapshot).firing snapshot)
    (session.between snapshot)
  have hqueue := view?_runQueue steady snapshot session.roster.queue (session.synced snapshot)
  rw [← between_eq] at hqueue
  exact hrules.trans (hqueue.trans (session.roster.view?_syncPositions steady.position snapshot))

end Session

end Skirmish
