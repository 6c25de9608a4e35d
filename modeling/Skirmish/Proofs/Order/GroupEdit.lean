import Skirmish.Proofs.Order.Aim
import Skirmish.Proofs.Order.BothWays
import Skirmish.Proofs.Roster.Membership

/-!
# Editing groups

An order that edits a group commands nobody. Run for the units that it addresses, it edits the agents
of its type that stand where it wants them: `Order.edits_group` says who is in the group afterwards,
that nothing else has changed, and that running the order again does nothing.

## Shape of the proof

Either way to run such an order is an edit of the roster and nothing else (`Order.exists_edited`).
Which agents are edited depends on their types and positions (`Order.editsMember_iff`), and an edit
changes neither, so that a second run edits the same agents and finds nobody to change.
-/

namespace Skirmish

namespace Order

variable {order : Order} {situation : Situation} {dispatch : Dispatch} {type : UnitType}
  {group : String} {edit : GroupEdit}

/-- Running a group edit edits the members and does nothing else. -/
theorem execute_of_groupEdit (action : order.intent.action = .groupEdit group edit)
    (situation : Situation) (dispatch : Dispatch) :
    order.execute situation dispatch =
      ⟨(dispatch.roster.editMembers (order.editsMember situation) group edit).1, order,
        { dispatch with
          roster := (dispatch.roster.editMembers (order.editsMember situation) group edit).2 }⟩ := by
  simp only [execute, action]

/-- In either way to run it, an order that edits a group edits the memberships of some agents and
does nothing else. -/
theorem exists_edited (action : order.intent.action = .groupEdit group edit)
    (situation : Situation) (dispatch : Dispatch) (agent : Option UnitTag) :
    ∃ chosen result, dispatch.roster.Edited chosen group edit result ∧
      order.perform situation dispatch agent =
        ⟨result.1, order, { dispatch with roster := result.2 }⟩ := by
  cases agent with
  | some tag =>
    refine ⟨_, _, dispatch.roster.edited_editMember tag group edit, ?_⟩
    simp only [perform, executeFor, action]
  | none =>
    exact ⟨_, _, dispatch.roster.edited_editMembers (order.editsMember situation) group edit,
      execute_of_groupEdit action situation dispatch⟩

/-- An order for units of a type edits the agents of that type that stand where it wants them. -/
theorem editsMember_iff (assignee : order.intent.assignee = .unitType type) {agent : Agent} :
    order.editsMember situation agent = true ↔
      agent.unitType = type ∧ order.intent.Reaches situation agent.position := by
  simp only [editsMember, assignee, Bool.and_eq_true, decide_eq_true_eq, Intent.contains_area_iff]

/-- What an order for units of a type does that edits a group. -/
structure EditsGroup (order : Order) (situation : Situation) (dispatch : Dispatch)
    (type : UnitType) (group : String) (edit : GroupEdit) (execution : Execution) : Prop where
  /-- The agents of the type that stand where the order wants them are in the group just if the edit
  adds to it; they stay in the same other groups, and are the same in everything else. -/
  chosen : ∀ tag agent, dispatch.roster.get? tag = some agent → agent.unitType = type →
    order.intent.Reaches situation agent.position →
      ∃ groups, execution.dispatch.roster.get? tag = some { agent with groups } ∧
        (group ∈ groups ↔ edit = .add) ∧
          ∀ other, other ≠ group → (other ∈ groups ↔ other ∈ agent.groups)
  /-- All other agents stay as they are, and nobody comes or goes. -/
  others : ∀ tag, (∀ agent, dispatch.roster.get? tag = some agent →
      ¬ (agent.unitType = type ∧ order.intent.Reaches situation agent.position)) →
    execution.dispatch.roster.get? tag = dispatch.roster.get? tag
  /-- The order, the commands, the random numbers and the releases stay as they are. -/
  kept : execution.outcome = (order, { dispatch with roster := execution.dispatch.roster })
  issued_iff : execution.issued = true ↔ dispatch.roster.Flips execution.dispatch.roster group
  /-- Run again at once, the order does nothing. -/
  again : execution.order.execute situation execution.dispatch =
    ⟨false, execution.order, execution.dispatch⟩

/-- **An order that edits a group edits it exactly, and once and for all.** -/
theorem edits_group (order : Order) (situation : Situation) (dispatch : Dispatch) (type : UnitType)
    (group : String) (edit : GroupEdit) (assignee : order.intent.assignee = .unitType type)
    (action : order.intent.action = .groupEdit group edit) :
    order.EditsGroup situation dispatch type group edit (order.execute situation dispatch) := by
  have edited := dispatch.roster.edited_editMembers (order.editsMember situation) group edit
  rw [execute_of_groupEdit action]
  constructor
  · intro tag agent hagent htype hreaches
    obtain ⟨groups, hgroups⟩ := agent.exists_groups_edit group edit
    have hchosen := (editsMember_iff assignee).mpr ⟨htype, hreaches⟩
    have hmem : ∀ other, other ∈ groups ↔
        if other = group then edit = .add else other ∈ agent.groups := by
      intro other
      rw [← Agent.mem_groups_edit, hgroups]
    refine ⟨groups, ?_, ?_, ?_⟩
    · rw [edited.get?, hagent, Option.map_some, if_pos hchosen, hgroups]
    · rw [hmem, if_pos rfl]
    · intro other hother
      rw [hmem, if_neg hother]
  · intro tag hnot
    rw [edited.get?]
    cases hagent : dispatch.roster.get? tag with
    | none => rfl
    | some agent =>
      have hspared : ¬ order.editsMember situation agent = true :=
        fun hchosen => hnot agent hagent ((editsMember_iff assignee).mp hchosen)
      rw [Option.map_some, if_neg hspared]
  · rfl
  · exact edited.changed_iff_flips
  · -- The same agents are chosen again, and all of them are as the edit leaves them.
    have again := Roster.edited_editMembers
      (dispatch.roster.editMembers (order.editsMember situation) group edit).2
      (order.editsMember situation) group edit
    have hunchanged := edited.unchanged_of_edited again
    rw [execute_of_groupEdit action, hunchanged, again.eq_of_unchanged hunchanged]

end Order

namespace SmallGame

/-- Two workers on the roster, of which the second one is far from home. -/
def scattered : Dispatch :=
  { untold with
    roster := untold.roster.insert ⟨8⟩ (.recruit .protossProbe .worker ⟨90, 90⟩) }

/-- An order for the workers near home to join a group. -/
def muster : Order := .issue ⟨24⟩
  (.editGroup .protossProbe "guard" .add .startLocation Intent.defaultRadius)

end SmallGame

/-- The worker near home joins the group, and the other one does not. -/
theorem Order.edits_group_muster :
    SmallGame.muster.EditsGroup SmallGame.crewed SmallGame.scattered .protossProbe "guard" .add
        (SmallGame.muster.execute SmallGame.crewed SmallGame.scattered) ∧
      (SmallGame.muster.execute SmallGame.crewed SmallGame.scattered).issued = true ∧
      (SmallGame.muster.execute SmallGame.crewed SmallGame.scattered).dispatch.roster.members
        "guard" = [⟨7⟩] :=
  ⟨edits_group _ _ _ _ _ _ rfl rfl, by decide, by decide⟩

end Skirmish
