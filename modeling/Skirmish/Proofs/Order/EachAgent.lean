import Skirmish.Proofs.Order.Aim
import Skirmish.Proofs.Order.BothWays

/-!
# Sending every agent

An order for agents with some capabilities or for a group is for all of them: everyone who has
nothing to do and stands where the order wants its units gets a command, or nobody does, since the
order has a target for all of them or for none. `Order.sends_each` says so.

## Shape of the proof

The agents that an order finds are the agents that it asks for (`Intent.asked`) and that are free.
They get their targets one after the other, and since a target is found or missed whatever the random
numbers are, all of them get one if one does (`Intent.targetEach_of_resolves`).

The order may as well test every agent only when its turn comes, against the commands that have been
issued until then, look for the target anew each time, and record the agents in the end. That comes
to the same (`Order.executeInTurn_eq`), because a command for one agent is nothing to another one
(`Intent.isFree_append_single`) and nobody is asked twice.
-/

namespace Skirmish

/-- Whether an agent is one that the order is for. -/
def Assignee.Names : Assignee → Agent → Prop
  | .flags capabilities, agent => ∀ capability ∈ capabilities, capability ∈ agent.capabilities
  | .group name, agent => name ∈ agent.groups
  | .fallback, _ | .unitType _, _ => False

namespace Intent

variable {intent : Intent} {situation : Situation} {outbox : Outbox} {random : Random}
  {tag other : UnitTag} {tags : List UnitTag}

/-! ## The agents that are found -/

/-- Whether an order finds an agent: it is for the agent, whose unit has nothing to do and stands
where the order wants it. -/
structure Finds (intent : Intent) (situation : Situation) (dispatch : Dispatch) (tag : UnitTag) :
    Prop where
  named : ∃ agent, dispatch.roster.get? tag = some agent ∧ intent.assignee.Names agent
  seen : ∃ unit ∈ situation.snapshot.units, unit.tag = tag ∧ dispatch.outbox.Spare unit ∧
    intent.Reaches situation unit.position

/-- The agents that an order is for, by ascending tag. -/
def asked (intent : Intent) (roster : Roster) : List UnitTag :=
  match intent.assignee with
  | .flags capabilities => roster.withAll capabilities
  | .group name => roster.members name
  | .fallback | .unitType _ => []

/-- The asked agents are those on the roster that the order names. -/
theorem mem_asked {roster : Roster} : tag ∈ intent.asked roster ↔
    ∃ agent, roster.get? tag = some agent ∧ intent.assignee.Names agent := by
  unfold asked
  cases intent.assignee with
  | fallback | unitType type => simp [Assignee.Names]
  | flags capabilities =>
    simp only [Roster.withAll, Roster.mem_tagsOf, Assignee.Names, KeySet.isSubset,
      List.all_eq_true, KeySet.contains_eq_true, KeySet.mem_toList]
  | group name =>
    simp only [Roster.members, Roster.mem_tagsOf, Assignee.Names, Agent.inGroup,
      KeySet.contains_eq_true]

/-- The asked agents are in ascending sequence. -/
theorem sorted_asked (intent : Intent) (roster : Roster) :
    (intent.asked roster).Pairwise (fun a b => Key.precedes a b = true) := by
  unfold asked
  cases intent.assignee with
  | fallback | unitType type => exact .nil
  | flags capabilities | group name => exact roster.sorted_tagsOf _

/-- An agent is free exactly if its unit is in the snapshot, spare, and where the order wants it. -/
theorem isFree_iff (distinct : (situation.snapshot.units.map (·.tag)).Nodup) :
    intent.isFree situation outbox tag = true ↔
      ∃ unit ∈ situation.snapshot.units, unit.tag = tag ∧ outbox.Spare unit ∧
        intent.Reaches situation unit.position := by
  have hfree : intent.isFree situation outbox tag = true ↔
      ∃ unit, situation.snapshot.unit? tag = some unit ∧ outbox.Spare unit ∧
        intent.Reaches situation unit.position := by
    unfold isFree
    cases situation.snapshot.unit? tag with
    | none => simp
    | some unit =>
      simp only [Bool.and_eq_true, decide_eq_true_eq, Outbox.pendingFor_eq_zero_iff,
        contains_area_iff, Option.some.injEq, exists_eq_left']
  simp only [hfree, Snapshot.unit?_eq_some_iff distinct, and_assoc]

/-- The free ones among the asked agents are those that the order finds. -/
theorem mem_found (distinct : (situation.snapshot.units.map (·.tag)).Nodup) {dispatch : Dispatch} :
    tag ∈ (intent.asked dispatch.roster).filter (intent.isFree situation dispatch.outbox) ↔
      intent.Finds situation dispatch tag := by
  rw [List.mem_filter, mem_asked, isFree_iff distinct]
  exact ⟨fun h => ⟨h.1, h.2⟩, fun h => ⟨h.named, h.seen⟩⟩

/-- A command for one agent is nothing to another one. -/
theorem isFree_append_single {ability : Ability} {target : CommandTarget} (h : other ≠ tag) :
    intent.isFree situation (outbox ++ [.single tag ability target]) other =
      intent.isFree situation outbox other := by
  unfold isFree
  cases hunit : situation.snapshot.unit? other with
  | none => rfl
  | some unit =>
    obtain rfl := (Snapshot.mem_of_unit? hunit).2
    have hpending : Outbox.pendingFor (outbox ++ [.single tag ability target]) unit = 0 ↔
        outbox.pendingFor unit = 0 := by
      rw [Outbox.pendingFor_eq_zero_iff, Outbox.pendingFor_eq_zero_iff,
        Outbox.spare_append_single]
      exact and_iff_left h
    simp only [hpending]

/-! ## The targets that they get -/

section

variable (distinct : (situation.snapshot.units.map (·.tag)).Nodup)
include distinct

/-- An order without a target commands nobody. -/
theorem targetEach_of_not_resolves (h : ¬ intent.Resolves situation) (tags : List UnitTag) :
    intent.targetEach situation tags random = ([], random) := by
  rcases target_cases distinct intent random with ⟨hresolves, -⟩ | ⟨-, htarget⟩
  · exact absurd hresolves h
  · induction tags with
    | nil => rfl
    | cons tag tags ih => simp only [targetEach, htarget, ih]

/-- **If the order has a target, then everyone gets one.** -/
theorem targetEach_of_resolves (h : intent.Resolves situation) (tags : List UnitTag)
    (random : Random) : (intent.targetEach situation tags random).1.map (·.1) = tags := by
  induction tags generalizing random with
  | nil => rfl
  | cons tag tags ih =>
    rcases target_cases distinct intent random with ⟨-, target, after, htarget⟩ | ⟨hnot, -⟩
    · simp only [targetEach, htarget, List.map_cons, ih after]
    · exact absurd h hnot

/-- A target that does not depend on chance is the same for everyone. -/
theorem targetEach_of_fixedTarget {target : CommandTarget} (h : intent.FixedTarget situation target)
    (tags : List UnitTag) :
    intent.targetEach situation tags random = (tags.map fun tag => (tag, target), random) := by
  induction tags with
  | nil => rfl
  | cons tag tags ih => simp only [targetEach, target_of_fixedTarget distinct h, ih, List.map_cons]

end

/-- Near a location everyone gets the next random point. -/
theorem targetEach_of_scatters {center : Point} (h : intent.Scatters situation center)
    (tags : List UnitTag) (random : Random) :
    intent.targetEach situation tags random =
      (List.zipWith (fun tag point => (tag, .point point)) tags
          (random.pointsInDisk center intent.proximity tags.length).1,
        (random.pointsInDisk center intent.proximity tags.length).2) := by
  induction tags generalizing random with
  | nil => rfl
  | cons tag tags ih =>
    simp only [targetEach, target_of_scatters h, ih, List.length_cons, Random.pointsInDisk,
      List.zipWith_cons_cons]

/-- An order for agents commands the free ones among the asked agents. -/
theorem assignments_eq (hassignee : intent.assignee.kind = .flags ∨ intent.assignee.kind = .group)
    (situation : Situation) (dispatch : Dispatch) :
    intent.assignments situation dispatch =
      intent.targetEach situation
        ((intent.asked dispatch.roster).filter (intent.isFree situation dispatch.outbox))
        dispatch.random := by
  unfold assignments asked
  cases hfor : intent.assignee with
  | fallback | unitType type =>
    rw [hfor] at hassignee
    rcases hassignee with h | h <;> cases h
  | flags capabilities | group name => rfl

end Intent

namespace Order

variable {order : Order} {situation : Situation} {dispatch : Dispatch} {tags : List UnitTag}

/-! ## One agent after the other -/

/-- Command agents one after the other: whoever is free when its turn comes gets a target of its own,
if there is one. The agents that have been commanded are returned. -/
def commandInTurn (order : Order) (situation : Situation) :
    List UnitTag → Dispatch → List UnitTag × Dispatch
  | [], dispatch => ([], dispatch)
  | tag :: tags, dispatch =>
    if order.intent.isFree situation dispatch.outbox tag then
      let (target, random) := order.intent.target situation dispatch.random
      match target with
      | some target =>
        let (commanded, dispatch) := order.commandInTurn situation tags
          { dispatch with outbox := dispatch.outbox ++ [order.command (tag, target)], random }
        (tag :: commanded, dispatch)
      | none => order.commandInTurn situation tags { dispatch with random }
    else order.commandInTurn situation tags dispatch

/-- Run an order for agents by commanding them one after the other, and record them afterwards. -/
def executeInTurn (order : Order) (situation : Situation) (dispatch : Dispatch) : Execution :=
  let (commanded, dispatch) :=
    order.commandInTurn situation (order.intent.asked dispatch.roster) dispatch
  let (order, dispatch) := order.recordAll dispatch commanded
  ⟨!commanded.isEmpty, order, dispatch⟩

/-- Testing everyone beforehand, and giving out the targets then, comes to the same. -/
theorem commandInTurn_eq (distinct : tags.Nodup) (dispatch : Dispatch) :
    order.commandInTurn situation tags dispatch =
      ((order.intent.targetEach situation
          (tags.filter (order.intent.isFree situation dispatch.outbox)) dispatch.random).1.map (·.1),
        { dispatch with
          outbox := dispatch.outbox ++ (order.intent.targetEach situation
            (tags.filter (order.intent.isFree situation dispatch.outbox)) dispatch.random).1.map
              order.command
          random := (order.intent.targetEach situation
            (tags.filter (order.intent.isFree situation dispatch.outbox)) dispatch.random).2 }) := by
  induction tags generalizing dispatch with
  | nil => simp [commandInTurn, Intent.targetEach]
  | cons tag tags ih =>
    obtain ⟨hnew, hrest⟩ := List.nodup_cons.mp distinct
    unfold commandInTurn
    cases hfree : order.intent.isFree situation dispatch.outbox tag with
    | false =>
      rw [if_neg Bool.false_ne_true, List.filter_cons_of_neg (by rw [hfree]; decide)]
      exact ih hrest dispatch
    | true =>
      rw [if_pos rfl, List.filter_cons_of_pos hfree]
      rcases htarget : order.intent.target situation dispatch.random with ⟨_ | target, after⟩
      · obtain rfl := Intent.random_of_target_eq_none htarget
        simp only [Intent.targetEach, htarget]
        exact ih hrest dispatch
      · -- The agents behind this one are as free as they were before its command.
        have hothers : tags.filter (order.intent.isFree situation
            (dispatch.outbox ++ [order.command (tag, target)])) =
              tags.filter (order.intent.isFree situation dispatch.outbox) := by
          refine List.filter_congr fun other hother => Intent.isFree_append_single ?_
          rintro rfl
          exact hnew hother
        simp only [Intent.targetEach, htarget, ih hrest, hothers, List.map_cons,
          List.append_assoc, List.singleton_append]

/-- **Commanding the agents one after the other is running the order.** -/
theorem executeInTurn_eq
    (hassignee : order.intent.assignee.kind = .flags ∨ order.intent.assignee.kind = .group)
    (hedit : ∀ group edit, order.intent.action ≠ .groupEdit group edit) (situation : Situation)
    (dispatch : Dispatch) :
    order.executeInTurn situation dispatch = order.execute situation dispatch := by
  have hcommit := perform_eq_commit hedit situation dispatch none
  rw [choices, Intent.assignments_eq hassignee] at hcommit
  have hnodup : (order.intent.asked dispatch.roster).Nodup :=
    (order.intent.sorted_asked dispatch.roster).imp Key.ne_of_precedes
  refine Eq.trans ?_ hcommit.symm
  simp only [executeInTurn, commandInTurn_eq hnodup, commit, List.isEmpty_map]

/-! ## Everyone or nobody -/

/-- What an order for agents does, if it finds these: all of them get a command, or nobody does. -/
structure SendsEach (order : Order) (situation : Situation) (dispatch : Dispatch)
    (found : List UnitTag) (execution : Execution) : Prop where
  /-- Everyone gets the same target, if it does not depend on chance. -/
  fixed : ∀ target, order.intent.FixedTarget situation target →
    execution.dispatch.outbox = dispatch.outbox ++
        found.map (fun tag => .single tag order.intent.ability target) ∧
      execution.dispatch.random = dispatch.random
  /-- Near a location everyone gets a random point, drawn after that of the one before. -/
  scattered : ∀ center, order.intent.Scatters situation center →
    let points := dispatch.random.pointsInDisk center order.intent.proximity found.length
    execution.dispatch.outbox = dispatch.outbox ++ List.zipWith
        (fun tag point => .single tag order.intent.ability (.point point)) found points.1 ∧
      execution.dispatch.random = points.2
  issued_iff : execution.issued = true ↔ order.intent.Resolves situation ∧ found ≠ []
  /-- Everyone is recorded, and nobody else. -/
  recorded : order.intent.Resolves situation → order.Recorded
    { dispatch with
      outbox := execution.dispatch.outbox
      random := execution.dispatch.random }
    found execution.outcome
  busy : order.intent.Resolves situation → ∀ tag ∈ found,
    tag ∈ execution.order.assigned ∧ ∃ agent, execution.dispatch.roster.get? tag = some agent ∧
      agent.isIdle = false ∧ agent.current = some order.id
  unresolved : ¬ order.intent.Resolves situation → execution = ⟨false, order, dispatch⟩
  /-- It makes no difference to test and to aim when the turn of an agent comes. -/
  inTurn : order.executeInTurn situation dispatch = execution

/-- Committing to choices records the chosen units, with the commands and the random numbers that are
left in the end. -/
theorem recorded_commit (order : Order) (dispatch : Dispatch)
    (choices : List (UnitTag × CommandTarget)) (random : Random) :
    order.Recorded
      { dispatch with
        outbox := (order.commit dispatch choices random).dispatch.outbox
        random := (order.commit dispatch choices random).dispatch.random }
      (choices.map (·.1)) (order.commit dispatch choices random).outcome := by
  have hdone := order.performed_commit dispatch choices random
  rw [hdone.outbox, hdone.random]
  exact order.recorded_recordAll _ _

/-- Without a target nothing happens at all. -/
theorem SendsEach.of_not_resolves
    (distinct : (situation.snapshot.units.map (·.tag)).Nodup) {found : List UnitTag}
    {execution : Execution} (h : ¬ order.intent.Resolves situation)
    (hcommit : execution = order.commit dispatch
      (order.intent.targetEach situation found dispatch.random).1
      (order.intent.targetEach situation found dispatch.random).2)
    (inTurn : order.executeInTurn situation dispatch = execution) :
    order.SendsEach situation dispatch found execution := by
  rw [Intent.targetEach_of_not_resolves distinct h, commit_nil] at hcommit
  exact {
    fixed := fun target fixed => absurd (Or.inl ⟨target, fixed⟩) h
    scattered := fun center scatters => absurd (Or.inr ⟨center, scatters⟩) h
    issued_iff := by
      rw [hcommit]
      exact ⟨nofun, fun hsome => absurd hsome.1 h⟩
    recorded := fun resolves => absurd resolves h
    busy := fun resolves => absurd resolves h
    unresolved := fun _ => hcommit
    inTurn := inTurn }

/-- With a target everyone that was found is commanded and recorded. -/
theorem SendsEach.of_resolves
    (distinct : (situation.snapshot.units.map (·.tag)).Nodup) {found : List UnitTag}
    {execution : Execution} (h : order.intent.Resolves situation)
    (hcommit : execution = order.commit dispatch
      (order.intent.targetEach situation found dispatch.random).1
      (order.intent.targetEach situation found dispatch.random).2)
    (listed : ∀ tag ∈ found, dispatch.roster.contains tag = true)
    (inTurn : order.executeInTurn situation dispatch = execution) :
    order.SendsEach situation dispatch found execution := by
  -- With a target no agent is left out, so the chosen tags are the found ones.
  have htags := Intent.targetEach_of_resolves distinct h found dispatch.random
  have hdone := order.performed_commit dispatch
    (order.intent.targetEach situation found dispatch.random).1
    (order.intent.targetEach situation found dispatch.random).2
  rw [← hcommit] at hdone
  have hrecorded := order.recorded_commit dispatch
    (order.intent.targetEach situation found dispatch.random).1
    (order.intent.targetEach situation found dispatch.random).2
  rw [← hcommit, htags] at hrecorded
  exact {
    fixed := fun target fixed => by
      rw [hdone.outbox, hdone.random, Intent.targetEach_of_fixedTarget distinct fixed, List.map_map]
      exact ⟨rfl, rfl⟩
    scattered := fun center scatters => by
      rw [hdone.outbox, hdone.random, Intent.targetEach_of_scatters scatters, List.map_zipWith]
      exact ⟨rfl, rfl⟩
    issued_iff := by
      have hissued : execution.issued = !found.isEmpty := by
        rw [hcommit, commit, ← List.isEmpty_map, htags]
      rw [hissued, Bool.not_eq_true', List.isEmpty_eq_false_iff]
      exact (and_iff_right h).symm
    recorded := fun _ => hrecorded
    busy := fun _ tag htag => by
      obtain ⟨agent, hagent⟩ := Option.isSome_iff_exists.mp (listed tag htag)
      refine ⟨(hrecorded.mem_assigned tag).mpr (Or.inr ⟨htag, listed tag htag⟩),
        order.takenUpBy agent, ?_, ?_, order.current_takenUpBy agent⟩
      · have hget := hrecorded.get? tag
        rw [if_pos htag] at hget
        exact hget.trans (congrArg (Option.map order.takenUpBy) hagent)
      · exact congrArg Duty.isIdle (order.duty_takenUpBy agent)
    unresolved := fun hnot => absurd h hnot
    inTurn := inTurn }

/-- **An order for agents sends everyone that it finds, or nobody.** -/
theorem sends_each (order : Order) (situation : Situation) (dispatch : Dispatch)
    (assignee : order.intent.assignee.kind = .flags ∨ order.intent.assignee.kind = .group)
    (edits : ∀ group edit, order.intent.action ≠ .groupEdit group edit)
    (distinct : (situation.snapshot.units.map (·.tag)).Nodup) :
    ∃ found : List UnitTag,
      found.Pairwise (fun a b => Key.precedes a b = true) ∧
        (∀ tag, tag ∈ found ↔ order.intent.Finds situation dispatch tag) ∧
          order.SendsEach situation dispatch found (order.execute situation dispatch) := by
  have hcommit := perform_eq_commit edits situation dispatch none
  rw [choices, Intent.assignments_eq assignee] at hcommit
  have hfound : ∀ tag, tag ∈ (order.intent.asked dispatch.roster).filter
      (order.intent.isFree situation dispatch.outbox) ↔ order.intent.Finds situation dispatch tag :=
    fun tag => Intent.mem_found distinct
  have inTurn := executeInTurn_eq assignee edits situation dispatch
  refine ⟨_, (order.intent.sorted_asked _).filter _, hfound, ?_⟩
  -- The agents are found before the target, so without one all of them are left out together.
  by_cases h : order.intent.Resolves situation
  · refine .of_resolves distinct h hcommit (fun tag htag => ?_) inTurn
    obtain ⟨agent, hagent, -⟩ := ((hfound tag).mp htag).named
    rw [Table.contains, hagent, Option.isSome_some]
  · exact .of_not_resolves distinct h hcommit inTurn

/-- Both workers are sent home, the one with the smaller tag first. -/
theorem sends_each_comeHome :
    (∃ found : List UnitTag,
      found.Pairwise (fun a b => Key.precedes a b = true) ∧
        (∀ tag, tag ∈ found ↔
          SmallGame.comeHome.intent.Finds SmallGame.crewed SmallGame.untold tag) ∧
          SmallGame.comeHome.SendsEach SmallGame.crewed SmallGame.untold found
            (SmallGame.comeHome.execute SmallGame.crewed SmallGame.untold)) ∧
      (SmallGame.comeHome.execute SmallGame.crewed SmallGame.untold).dispatch.outbox =
        [.single ⟨7⟩ .move (.point .origin), .single ⟨8⟩ .move (.point .origin)] :=
  ⟨sends_each _ _ _ (Or.inl rfl) nofun (by decide), by decide⟩

end Order

end Skirmish
