import Skirmish.Proofs.Order.Draws
import Skirmish.Proofs.Order.GroupEdit

/-!
# The answer of a run tells what it did

Running an order, in either way, ends with an answer: whether the order did anything. There are many
reasons for which an order does nothing (its place is unknown, nothing is there to gather from, nobody
is free, its ability is in use, the agent is not on the roster), and they are found at different
depths. `Order.tells_effect` says that the answer can be relied upon all the same. If it is no, then
nothing but random numbers has changed, and those only in one case; if it is yes, then a command was
issued, or a membership is another one than before.
-/

namespace Skirmish

namespace Order

variable {order : Order} {situation : Situation} {dispatch : Dispatch} {agent : Option UnitTag}

/-- Whether the answer of a run tells what the run did. -/
structure TellsEffect (order : Order) (situation : Situation) (dispatch : Dispatch)
    (agent : Option UnitTag) (execution : Execution) : Prop where
  /-- A run that did nothing leaves everything but the random numbers as it is. -/
  silent : execution.issued = false →
    execution.outcome = (order, { dispatch with random := execution.dispatch.random })
  /-- They are left as they are too, unless a point has been drawn first. -/
  drawn : execution.issued = false → execution.dispatch.random = dispatch.random ∨
    order.DrawsFirst situation agent ∧ execution.dispatch.random = dispatch.random.advance 2
  /-- A run that did something has issued commands for the ability of the order, -/
  commanded : execution.issued = true →
    (∀ group edit, order.intent.action ≠ .groupEdit group edit) →
      ∃ commands, commands ≠ [] ∧ execution.dispatch.outbox = dispatch.outbox ++ commands ∧
        ∀ command ∈ commands, command.ability = order.intent.ability
  /-- or else it has changed the membership of somebody. -/
  edited : ∀ group edit, execution.issued = true → order.intent.action = .groupEdit group edit →
    execution.dispatch.outbox = dispatch.outbox ∧
      dispatch.roster.Flips execution.dispatch.roster group

/-- An edit of a group that changes nobody changes nothing. -/
theorem TellsEffect.of_edited {group : String} {edit : GroupEdit}
    {chosen : UnitTag → Agent → Bool} {result : Bool × Roster}
    (action : order.intent.action = .groupEdit group edit)
    (edited : dispatch.roster.Edited chosen group edit result) :
    order.TellsEffect situation dispatch agent
      ⟨result.1, order, { dispatch with roster := result.2 }⟩ where
  silent hno := by
    rw [edited.eq_of_unchanged hno]
    rfl
  drawn _ := Or.inl rfl
  commanded _ hedit := absurd action (hedit group edit)
  edited other _ hyes hother := by
    obtain ⟨rfl, -⟩ := Action.groupEdit.inj (action.symm.trans hother)
    exact ⟨rfl, edited.changed_iff_flips.mp hyes⟩

/-- Committing to no choice changes nothing, and every choice becomes a command. -/
theorem TellsEffect.of_commit (hedit : ∀ group edit, order.intent.action ≠ .groupEdit group edit)
    {choices : List (UnitTag × CommandTarget)} {random : Random}
    (drawn : choices = [] → random = dispatch.random ∨
      order.DrawsFirst situation agent ∧ random = dispatch.random.advance 2) :
    order.TellsEffect situation dispatch agent (order.commit dispatch choices random) where
  silent hno := by
    obtain rfl : choices = [] := List.isEmpty_iff.mp ((Bool.not_eq_false' _).mp hno)
    rw [commit_nil]
    rfl
  drawn hno := by
    obtain rfl : choices = [] := List.isEmpty_iff.mp ((Bool.not_eq_false' _).mp hno)
    rw [commit_nil]
    exact drawn rfl
  commanded hyes _ := by
    have hsome : choices ≠ [] := List.isEmpty_eq_false_iff.mp ((Bool.not_eq_true' _).mp hyes)
    refine ⟨choices.map order.command, ?_, (order.performed_commit dispatch choices random).outbox,
      ?_⟩
    · rw [ne_eq, List.map_eq_nil_iff]
      exact hsome
    · intro command hcommand
      obtain ⟨choice, -, rfl⟩ := List.mem_map.mp hcommand
      rfl
  edited group edit _ action := absurd action (hedit group edit)

/-- **The answer of a run tells what it did**, whatever the order and the agent are. -/
theorem tells_effect (order : Order) (situation : Situation) (dispatch : Dispatch)
    (agent : Option UnitTag) :
    order.TellsEffect situation dispatch agent (order.perform situation dispatch agent) := by
  by_cases hedit : ∃ group edit, order.intent.action = .groupEdit group edit
  · obtain ⟨group, edit, action⟩ := hedit
    obtain ⟨chosen, result, edited, hrun⟩ := exists_edited action situation dispatch agent
    rw [hrun]
    exact .of_edited action edited
  · have hcommands : ∀ group edit, order.intent.action ≠ .groupEdit group edit :=
      fun group edit action => hedit ⟨group, edit, action⟩
    rw [perform_eq_commit hcommands]
    exact .of_commit hcommands random_choices_of_nil

/-- An order to build near home draws a point although there is nobody who could build. -/
example :
    let order : Order := .issue ⟨26⟩
      (.unitTypeNear .protossZealot .buildPylon .startLocation Intent.defaultRadius)
    let execution := order.execute SmallGame.crewed SmallGame.untold
    execution.issued = false ∧
      execution.dispatch.random.drawn = SmallGame.untold.random.drawn + 2 := by
  decide

end Order

end Skirmish
