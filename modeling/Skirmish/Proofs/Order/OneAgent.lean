import Skirmish.Proofs.Order.Execution

/-!
# Running an order for one agent

An order that runs for one agent touches that agent alone. It commands the agent or nobody
(`choices_some`), and every other agent keeps its whole record, groups and position included
(`get?_perform_of_ne`). The agent itself keeps the order that it falls back on; if it was commanded,
the order that follows is waiting for it, and otherwise nothing new is (`get?_perform_self`).
-/

namespace Skirmish

/-- Whether a command is for one unit and for no other. -/
def Command.IsFor (command : Command) (tag : UnitTag) : Prop :=
  ∀ other, command.addresses other = true ↔ other = tag

/-- A view of agents that shows none of the things that taking up an order is made of does not show
that an order has been taken up. -/
theorem Order.view_takenUpBy {α : Type} {view : Agent → α}
    (works : ∀ agent order, view (Agent.workOn agent order) = view agent)
    (follows : ∀ agent order, view (Agent.thenRun agent order) = view agent)
    (places : ∀ agent, view (Agent.gain agent .placingGas) = view agent)
    (order : Order) (agent : Agent) : view (order.takenUpBy agent) = view agent := by
  unfold takenUpBy
  cases order.intent.followUp <;> cases order.intent.ability.buildsGasStructure
  · exact works agent order.id
  · exact (places _).trans (works agent order.id)
  · exact (follows _ _).trans (works agent order.id)
  · exact (places _).trans ((follows _ _).trans (works agent order.id))

namespace Agent

/-- The order that an agent runs next when it takes up an order: one that is waiting stays. -/
theorem followUp_takenUpBy (order : Order) (agent : Agent) :
    (order.takenUpBy agent).followUp = (agent.followUp <|> order.intent.followUp) := by
  unfold Order.takenUpBy
  cases order.intent.followUp <;> cases order.intent.ability.buildsGasStructure <;>
    cases h : agent.followUp <;> simp [workOn, thenRun, gain, h]

/-- To take up an order leaves the fallback alone. -/
theorem fallback_takenUpBy (order : Order) (agent : Agent) :
    (order.takenUpBy agent).fallback = agent.fallback :=
  congrArg Duty.fallback (order.duty_takenUpBy agent)

theorem followUp_edit (agent : Agent) (group : String) (edit : GroupEdit) :
    (agent.edit group edit).followUp = agent.followUp := by
  cases edit <;> rfl

theorem fallback_edit (agent : Agent) (group : String) (edit : GroupEdit) :
    (agent.edit group edit).fallback = agent.fallback :=
  congrArg Duty.fallback (agent.duty_edit group edit)

end Agent

namespace Roster

variable {roster : Roster} {tag : UnitTag}

/-- Editing one agent leaves every other one as it is. -/
theorem get?_editMember_of_ne {other : UnitTag} (h : other ≠ tag) (group : String)
    (edit : GroupEdit) : (roster.editMember tag group edit).2.get? other = roster.get? other := by
  unfold editMember
  split
  · rw [Table.get?_insert, if_neg h]
  · rfl

/-- Editing an agent of the roster edits that agent. -/
theorem get?_editMember_self {agent : Agent} (hagent : roster.get? tag = some agent)
    (group : String) (edit : GroupEdit) :
    (roster.editMember tag group edit).2.get? tag = some (agent.edit group edit) := by
  unfold editMember
  rw [hagent, Table.get?_insert, if_pos rfl]

end Roster

namespace Order

variable (order : Order) (situation : Situation) (dispatch : Dispatch) (tag : UnitTag)

/-- Run for one agent, an order commands that agent or nobody. -/
theorem choices_some : ∃ target : Option CommandTarget,
    (order.choices situation dispatch (some tag)).1 = target.toList.map fun target => (tag, target) := by
  by_cases h : order.mustWaitFor situation dispatch.outbox = true
  · exact ⟨none, by rw [choices, if_pos h]; rfl⟩
  · exact ⟨(order.intent.target situation dispatch.random).1, by rw [choices, if_neg h]⟩

/-- Run for one agent, an order commands no other one. -/
theorem tag_of_mem_choices_some {choice : UnitTag × CommandTarget}
    (h : choice ∈ (order.choices situation dispatch (some tag)).1) : choice.1 = tag := by
  obtain ⟨target, htarget⟩ := order.choices_some situation dispatch tag
  rw [htarget, List.mem_map] at h
  obtain ⟨-, -, rfl⟩ := h
  rfl

/-- The command of a choice is for the chosen unit. -/
theorem isFor_command (choice : UnitTag × CommandTarget) : (order.command choice).IsFor choice.1 :=
  fun _ => order.addresses_command_iff.trans eq_comm

/-- What committing to some choices does to every agent. -/
theorem get?_commit (choices : List (UnitTag × CommandTarget)) (random : Random) (t : UnitTag) :
    (order.commit dispatch choices random).dispatch.roster.get? t =
      if t ∈ choices.map (·.1) then (dispatch.roster.get? t).map order.takenUpBy
      else dispatch.roster.get? t :=
  (order.recorded_recordAll
    { dispatch with outbox := dispatch.outbox ++ choices.map order.command, random } _).get? t

/-- **Running an order for one agent leaves every other agent as it is.** -/
theorem get?_perform_of_ne {other : UnitTag} (h : other ≠ tag) :
    (order.perform situation dispatch (some tag)).dispatch.roster.get? other =
      dispatch.roster.get? other := by
  rcases order.perform_cases situation dispatch (some tag) with ⟨group, edit, haction⟩ | hcommit
  · simp only [perform, executeFor, haction]
    exact Roster.get?_editMember_of_ne h group edit
  · rw [hcommit, get?_commit, if_neg]
    intro hmem
    obtain ⟨choice, hchoice, rfl⟩ := List.mem_map.mp hmem
    exact h (order.tag_of_mem_choices_some situation dispatch tag hchoice)

/-- What running an order for an agent leaves of the orders that the agent runs next. -/
theorem get?_perform_self {agent : Agent} (hagent : dispatch.roster.get? tag = some agent) :
    ∃ after, (order.perform situation dispatch (some tag)).dispatch.roster.get? tag = some after ∧
      after.fallback = agent.fallback ∧
      after.followUp =
        if (order.choices situation dispatch (some tag)).1 = [] then agent.followUp
        else (agent.followUp <|> order.intent.followUp) := by
  rcases order.perform_cases situation dispatch (some tag) with ⟨group, edit, haction⟩ | hcommit
  · refine ⟨agent.edit group edit, ?_, agent.fallback_edit group edit, ?_⟩
    · simp only [perform, executeFor, haction]
      exact Roster.get?_editMember_self hagent group edit
    · rw [choices_of_groupEdit haction, if_pos rfl, agent.followUp_edit group edit]
  · -- The slot for the order to run next is filled only while it is empty.
    rw [hcommit, get?_commit, hagent]
    obtain ⟨target, htarget⟩ := order.choices_some situation dispatch tag
    rw [htarget]
    cases target with
    | none => exact ⟨agent, rfl, rfl, rfl⟩
    | some target =>
      refine ⟨order.takenUpBy agent, ?_, Agent.fallback_takenUpBy order agent, ?_⟩
      · simp
      · simp [Agent.followUp_takenUpBy]

end Order

end Skirmish
