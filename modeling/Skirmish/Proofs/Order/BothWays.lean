import Mathlib.Data.List.Basic
import Skirmish.Proofs.Order.OneAgent
import Skirmish.Proofs.Order.Selection

/-!
# Both ways to run an order agree

Rules run an order for the units that it finds, and idle agents run it for themselves. Once it is
known whom the order finds, the first way can be replayed by the second: `Order.both_ways_agree`.

## Shape of the proof

Without a group edit, either way commits to its choices (`perform_eq_commit`), so that only choices
have to be compared. An order for units of a type makes the same single choice in both ways
(`choices_some_of_unitType`). An order for agents makes many choices at once, and commits to all
of them before it records anyone; run for one agent after the other, it records each before the next
is chosen. That makes no difference, since recording reads neither commands nor random numbers
(`recordAll_overwrite`) and committing to choices in two parts is committing to all of them
(`outcome_commit_append`).
-/

namespace Skirmish

/-- What the next run starts from. -/
def Execution.outcome (execution : Execution) : Order × Dispatch :=
  (execution.order, execution.dispatch)

namespace Order

variable {order : Order} {situation : Situation} {dispatch : Dispatch} {tag : UnitTag}

/-- Run an order for several agents, one after the other. -/
def executeForAll (order : Order) (situation : Situation) (dispatch : Dispatch)
    (tags : List UnitTag) : Order × Dispatch :=
  tags.foldl (fun state tag => (state.1.executeFor situation state.2 tag).outcome) (order, dispatch)

/-- Whether an order, run for the units that it finds, commands exactly these, in this sequence. -/
def Commands (order : Order) (situation : Situation) (dispatch : Dispatch) (tags : List UnitTag) :
    Prop :=
  ∃ commands,
    (order.execute situation dispatch).dispatch.outbox = dispatch.outbox ++ commands ∧
      commands.map (·.units) = tags.map fun tag => [tag]

/-- The units that are commanded are those that the order chooses. -/
theorem Commands.tags_eq {tags : List UnitTag} (h : order.Commands situation dispatch tags) :
    (order.choices situation dispatch none).1.map (·.1) = tags := by
  obtain ⟨commands, houtbox, hunits⟩ := h
  have hcommands : (order.choices situation dispatch none).1.map order.command = commands :=
    List.append_cancel_left
      ((order.performed_perform situation dispatch none).outbox.symm.trans houtbox)
  refine List.map_injective_iff.mpr List.singleton_injective ?_
  rw [List.map_map, ← hunits, ← hcommands, List.map_map]
  rfl

/-! ## Committing in parts -/

/-- Recording reads neither the commands nor the random numbers. -/
theorem recordAll_overwrite (order : Order) (dispatch : Dispatch) (tags : List UnitTag)
    (outbox : Outbox) (random : Random) :
    order.recordAll { dispatch with outbox, random } tags =
      ((order.recordAll dispatch tags).1,
        { (order.recordAll dispatch tags).2 with outbox, random }) := by
  induction tags generalizing order dispatch with
  | nil => rfl
  | cons tag tags ih =>
    have hrecord : order.record { dispatch with outbox, random } tag =
        ((order.record dispatch tag).1,
          { (order.record dispatch tag).2 with outbox, random }) := by
      unfold record
      dsimp only
      cases dispatch.roster.get? tag <;> rfl
    show (order.record { dispatch with outbox, random } tag).1.recordAll
      (order.record { dispatch with outbox, random } tag).2 tags = _
    rw [hrecord]
    exact ih _ _

/-- Committing to choices records the chosen units after their commands. -/
theorem outcome_commit (order : Order) (dispatch : Dispatch)
    (choices : List (UnitTag × CommandTarget)) (random : Random) :
    (order.commit dispatch choices random).outcome =
      ((order.recordAll dispatch (choices.map (·.1))).1,
        { (order.recordAll dispatch (choices.map (·.1))).2 with
          outbox := dispatch.outbox ++ choices.map order.command, random }) :=
  order.recordAll_overwrite dispatch _ _ random

/-- **Committing to choices in two parts is committing to all of them.** The random numbers that the
first part leaves are those of the second part in the end. -/
theorem outcome_commit_append (order : Order) (dispatch : Dispatch)
    (first second : List (UnitTag × CommandTarget)) (drawn random : Random) :
    ((order.commit dispatch first drawn).order.commit
      (order.commit dispatch first drawn).dispatch second random).outcome =
        (order.commit dispatch (first ++ second) random).outcome := by
  have hfirst := order.outcome_commit dispatch first drawn
  have horder := congrArg Prod.fst hfirst
  have hdispatch := congrArg Prod.snd hfirst
  have hcommand : (order.commit dispatch first drawn).order.command = order.command := by
    funext choice
    rw [command, command, (order.performed_commit dispatch first drawn).intent]
  -- Recording is a fold over the tags, so the second half goes on where the first one stops.
  have hrecord : order.recordAll dispatch ((first ++ second).map (·.1)) =
      (order.recordAll dispatch (first.map (·.1))).1.recordAll
        (order.recordAll dispatch (first.map (·.1))).2 (second.map (·.1)) := by
    rw [List.map_append]
    exact List.foldl_append
  rw [outcome_commit, hcommand, outcome_commit, hrecord, List.map_append, ← List.append_assoc]
  simp only [Execution.outcome] at horder hdispatch
  rw [horder, hdispatch, recordAll_overwrite]

/-! ## Units of a type -/

/-- An order that finds a unit of a type does not have to wait. -/
theorem mustWaitFor_of_assignment {type : UnitType} {choice : UnitTag × CommandTarget}
    (h : (order.intent.assignment situation dispatch type).1 = some choice) :
    order.mustWaitFor situation dispatch.outbox = false := by
  unfold Intent.assignment at h
  unfold mustWaitFor
  cases haction : order.intent.action with
  | simple | harvestMineralsNear place | harvestGasNear place | groupEdit group edit => rfl
  | exactLocation place | nearLocation place =>
    rw [haction] at h
    obtain ⟨aim, -, hchoice⟩ := Option.bind_eq_some_iff.mp h
    exact (order.intent.target_of_nearestBuilder hchoice).1
  | targetUnit target =>
    rw [haction] at h
    obtain ⟨unit, -, hchoice⟩ := Option.bind_eq_some_iff.mp h
    exact (order.intent.target_of_nearestBuilder hchoice).1

/-- An order for units of a type makes the same choice when it is run for the unit that it finds. -/
theorem choices_some_of_unitType {type : UnitType}
    (hassignee : order.intent.assignee = .unitType type)
    (htags : (order.choices situation dispatch none).1.map (·.1) = [tag]) :
    order.choices situation dispatch (some tag) = order.choices situation dispatch none := by
  have hnone : order.choices situation dispatch none =
      ((order.intent.assignment situation dispatch type).1.toList,
        (order.intent.assignment situation dispatch type).2) := by
    rw [choices, Intent.assignments, hassignee]
  rw [hnone] at htags ⊢
  cases hfound : (order.intent.assignment situation dispatch type).1 with
  | none =>
    rw [hfound] at htags
    cases htags
  | some choice =>
    rw [hfound] at htags
    obtain rfl : choice.1 = tag := List.singleton_injective htags
    -- That a unit has been found means that the ability may be used.
    have hwait := mustWaitFor_of_assignment hfound
    rw [choices, hwait, order.intent.target_of_assignment hfound]
    rfl

/-! ## Agents -/

/-- An order that allows several uses of its ability or that harvests never has to wait. -/
theorem mustWaitFor_eq_false (h : order.intent.allowsMultiple = true ∨
    order.intent.action.kind.harvests = true) (outbox : Outbox) :
    order.mustWaitFor situation outbox = false := by
  rcases h with hmultiple | hharvests
  · unfold mustWaitFor Intent.mustWait
    rw [hmultiple]
    split <;> rfl
  · unfold mustWaitFor
    cases haction : order.intent.action with
    | simple | harvestMineralsNear place | harvestGasNear place | groupEdit group edit => rfl
    | exactLocation place | nearLocation place | targetUnit target =>
      rw [haction] at hharvests
      cases hharvests

/-- An order for agents chooses by giving each of some agents a target. -/
theorem exists_targetEach (situation : Situation) (dispatch : Dispatch)
    (hassignee : order.intent.assignee.kind = .flags ∨ order.intent.assignee.kind = .group) :
    ∃ tags, order.choices situation dispatch none =
      order.intent.targetEach situation tags dispatch.random := by
  unfold choices Intent.assignments
  cases hfor : order.intent.assignee with
  | fallback | unitType type =>
    rw [hfor] at hassignee
    rcases hassignee with h | h <;> cases h
  | flags capabilities | group name => exact ⟨_, rfl⟩

/-- **Running an order for agents, one after the other, is committing to the targets that they get
together**, if the order never has to wait. -/
theorem executeForAll_eq (hedit : ∀ group edit, order.intent.action ≠ .groupEdit group edit)
    (hwait : ∀ outbox, order.mustWaitFor situation outbox = false) (tags : List UnitTag) :
    order.executeForAll situation dispatch tags =
      (order.commit dispatch (order.intent.targetEach situation tags dispatch.random).1
        (order.intent.targetEach situation tags dispatch.random).2).outcome := by
  induction tags generalizing order dispatch with
  | nil =>
    show _ = (order.commit dispatch [] dispatch.random).outcome
    rw [commit_nil]
    rfl
  | cons tag tags ih =>
    rcases htarget : order.intent.target situation dispatch.random with ⟨target, drawn⟩
    have hrun : order.executeFor situation dispatch tag =
        order.commit dispatch (target.toList.map fun target => (tag, target)) drawn := by
      have hcommit := perform_eq_commit hedit situation dispatch (some tag)
      rw [choices, hwait, htarget] at hcommit
      exact hcommit
    have hdone := order.performed_commit dispatch (target.toList.map fun target => (tag, target))
      drawn
    rw [← hrun] at hdone
    -- The intent is the same after the first agent, so the rest runs by the induction hypothesis.
    have hrest : order.executeForAll situation dispatch (tag :: tags) =
        (order.executeFor situation dispatch tag).order.executeForAll situation
          (order.executeFor situation dispatch tag).dispatch tags := rfl
    rw [hrest, ih, hdone.intent, hdone.random, hrun, outcome_commit_append,
      Intent.targetEach_cons, htarget]
    · rw [hdone.intent]
      exact hedit
    · intro outbox
      rw [mustWaitFor, hdone.intent]
      exact hwait outbox

/-! ## Both ways -/

/-- **Both ways to run an order agree.** For an order that edits no group:

* if it is for units of a type and commands one, then running it for that unit instead succeeds and
  comes to the same;
* if it is for agents and does not wait for its ability, then running it for the units that it
  commands, one after the other, leaves the same order and the same dispatch. -/
theorem both_ways_agree (order : Order) (situation : Situation) (dispatch : Dispatch)
    (hedit : ∀ group edit, order.intent.action ≠ .groupEdit group edit) :
    (∀ type tag, order.intent.assignee = .unitType type →
      order.Commands situation dispatch [tag] →
        (order.executeFor situation dispatch tag).issued = true ∧
          order.executeFor situation dispatch tag = order.execute situation dispatch) ∧
      ∀ tags,
        (order.intent.assignee.kind = .flags ∨ order.intent.assignee.kind = .group) →
        (order.intent.allowsMultiple = true ∨ order.intent.action.kind.harvests = true) →
        order.Commands situation dispatch tags →
          order.executeForAll situation dispatch tags =
            (order.execute situation dispatch).outcome := by
  have hexecute : order.execute situation dispatch =
      order.commit dispatch (order.choices situation dispatch none).1
        (order.choices situation dispatch none).2 :=
    perform_eq_commit hedit situation dispatch none
  constructor
  · intro type tag hassignee hcommands
    have hchoices := choices_some_of_unitType hassignee hcommands.tags_eq
    have hagree : order.executeFor situation dispatch tag = order.execute situation dispatch := by
      rw [hexecute, ← hchoices]
      exact perform_eq_commit hedit situation dispatch (some tag)
    refine ⟨?_, hagree⟩
    have hsome : (order.choices situation dispatch none).1 ≠ [] := by
      intro hnil
      have htags := hcommands.tags_eq
      rw [hnil] at htags
      cases htags
    rw [hagree, hexecute, commit, (Bool.not_eq_true' _).mpr (List.isEmpty_eq_false_iff.mpr hsome)]
  · -- The found agents are aimed for in the same sequence, so the same points are drawn.
    intro tags hassignee hfree hcommands
    obtain ⟨asked, hchoices⟩ := exists_targetEach situation dispatch hassignee
    have htags := hcommands.tags_eq
    rw [hchoices] at htags
    rw [executeForAll_eq hedit (mustWaitFor_eq_false hfree), hexecute, hchoices, ← htags,
      Intent.targetEach_targeted]

end Order

/-- A world with two workers. -/
def SmallGame.crewed : Situation where
  snapshot := { Snapshot.blank with
    units := [.ofType ⟨7⟩ .protossProbe .origin, .ofType ⟨8⟩ .protossProbe .origin] }
  layout := .singleBase .origin
  blackboard := .empty
  claimRadius := Situation.defaultClaimRadius

/-- Both workers are on the roster, and nobody has been told anything yet. -/
def SmallGame.untold : Dispatch where
  roster := (Table.empty.insert ⟨7⟩ (.recruit .protossProbe .worker .origin)).insert ⟨8⟩
    (.recruit .protossProbe .worker .origin)
  outbox := []
  random := .ofSeed 0
  released := []

/-- An order to build a pylon at home. -/
def SmallGame.build : Order := .issue ⟨21⟩ (.unitTypeAt .protossProbe .buildPylon .startLocation)

/-- An order for all workers to come home. -/
def SmallGame.comeHome : Order := .issue ⟨22⟩
  { Intent.flagsAt (KeySet.empty.insert .worker) .move .startLocation with
    multiplicity := .allowMultiple }

/-- The order to build finds the first worker, and the order to come home finds both. -/
theorem Order.both_ways_agree_crewed :
    SmallGame.build.executeFor SmallGame.crewed SmallGame.untold ⟨7⟩ =
        SmallGame.build.execute SmallGame.crewed SmallGame.untold ∧
      SmallGame.comeHome.executeForAll SmallGame.crewed SmallGame.untold [⟨7⟩, ⟨8⟩] =
        (SmallGame.comeHome.execute SmallGame.crewed SmallGame.untold).outcome := by
  constructor
  · have hedit : ∀ group edit, SmallGame.build.intent.action ≠ .groupEdit group edit := nofun
    have hcommands : SmallGame.build.Commands SmallGame.crewed SmallGame.untold [⟨7⟩] :=
      ⟨[.single ⟨7⟩ .buildPylon (.point .origin)], by decide, rfl⟩
    exact ((both_ways_agree _ _ _ hedit).1 .protossProbe ⟨7⟩ rfl hcommands).2
  · have hedit : ∀ group edit, SmallGame.comeHome.intent.action ≠ .groupEdit group edit := nofun
    have hcommands : SmallGame.comeHome.Commands SmallGame.crewed SmallGame.untold
        [⟨7⟩, ⟨8⟩] :=
      ⟨[.single ⟨7⟩ .move (.point .origin), .single ⟨8⟩ .move (.point .origin)], by decide, rfl⟩
    exact (both_ways_agree _ _ _ hedit).2 _ (Or.inl rfl) (Or.inl rfl) hcommands

end Skirmish
