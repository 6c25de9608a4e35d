import Skirmish.Order.Selection
import Skirmish.Proofs.Roster.Listing

/-!
# The units that an order finds

An order for units of a type looks for one in the snapshot: the nearest one that is not building, if
it is aimed at something, and otherwise the first one with nothing to do. An order for agents looks
for all of them on the roster that have nothing to do. The lemmas here say, for each of the two,
what is known of the units that are found (`Intent.exists_unit_of_assignment`,
`Intent.isFree_of_mem_targetEach`) and of the targets that they get.

A target does not depend on who asks for it. What an order for units of a type aims at is what any
single agent would get (`Intent.target_of_assignment`), and agents that get no target draw nothing,
so that those who get one get the same when they ask alone (`Intent.targetEach_targeted`).
-/

namespace Skirmish

/-- A unit with nothing to do is not building. -/
theorem Outbox.isConstructing_of_pendingFor {outbox : Outbox} {unit : UnitView}
    (h : outbox.pendingFor unit = 0) : outbox.isConstructing unit = false := by
  obtain ⟨hactivities, hcount⟩ := Nat.add_eq_zero_iff.mp h
  rw [countFor, List.countP_eq_zero] at hcount
  rw [isConstructing, List.length_eq_zero_iff.mp hactivities, List.any_nil, Bool.false_or,
    List.any_eq_false]
  intro command hcommand hboth
  exact hcount command hcommand (Bool.and_eq_true_iff.mp hboth).1

namespace Intent

variable {intent : Intent} {situation : Situation} {dispatch : Dispatch}

/-! ## Units of a type -/

section

variable {outbox : Outbox} {type : UnitType} {choice : UnitTag × CommandTarget}

/-- The nearest builder is one of our units, suits the order, and does not construct. -/
theorem exists_unit_of_nearestBuilder {aim : Aim}
    (h : intent.nearestBuilder situation outbox type aim = some choice) :
    ∃ unit ∈ situation.snapshot.ownUnits, unit.tag = choice.1 ∧
      intent.suits situation type unit = true ∧ outbox.isConstructing unit = false := by
  unfold nearestBuilder at h
  split at h
  · cases h
  · obtain ⟨tag, hnearest, rfl⟩ := Option.map_eq_some_iff.mp h
    obtain ⟨candidate, hleast, rfl⟩ := Option.map_eq_some_iff.mp hnearest
    obtain ⟨unit, hunit, rfl⟩ := List.mem_map.mp (mem_of_least hleast)
    obtain ⟨hown, htest⟩ := List.mem_filter.mp hunit
    obtain ⟨hsuits, hfree⟩ := Bool.and_eq_true_iff.mp htest
    exact ⟨unit, hown, rfl, hsuits, (Bool.not_eq_true' _).mp hfree⟩

/-- The first free unit is one of ours, suits the order, and does not construct. -/
theorem exists_unit_of_firstFree (h : intent.firstFree situation outbox type = some choice) :
    ∃ unit ∈ situation.snapshot.ownUnits, unit.tag = choice.1 ∧
      intent.suits situation type unit = true ∧ outbox.isConstructing unit = false := by
  obtain ⟨tag, hleast, rfl⟩ := Option.map_eq_some_iff.mp h
  obtain ⟨unit, hunit, rfl⟩ := List.mem_map.mp (mem_of_least hleast)
  obtain ⟨hown, htest⟩ := List.mem_filter.mp hunit
  obtain ⟨hsuits, hfree⟩ := Bool.and_eq_true_iff.mp htest
  exact ⟨unit, hown, rfl, hsuits, Outbox.isConstructing_of_pendingFor (of_decide_eq_true hfree)⟩

/-- The unit of a type that an order finds is one of ours that suits it and is not building. -/
theorem exists_unit_of_assignment
    (h : (intent.assignment situation dispatch type).1 = some choice) :
    ∃ unit ∈ situation.snapshot.ownUnits, unit.tag = choice.1 ∧
      intent.suits situation type unit = true ∧ dispatch.outbox.isConstructing unit = false := by
  unfold assignment at h
  cases haction : intent.action with
  | simple =>
    rw [haction] at h
    exact exists_unit_of_firstFree h
  | exactLocation place | nearLocation place =>
    rw [haction] at h
    obtain ⟨aim, -, hchoice⟩ := Option.bind_eq_some_iff.mp h
    exact exists_unit_of_nearestBuilder hchoice
  | targetUnit target =>
    rw [haction] at h
    obtain ⟨unit, -, hchoice⟩ := Option.bind_eq_some_iff.mp h
    exact exists_unit_of_nearestBuilder hchoice
  | harvestMineralsNear place | harvestGasNear place | groupEdit group edit =>
    rw [haction] at h
    cases h

/-- A unit is sent to an aim only if the order does not have to wait. -/
theorem target_of_nearestBuilder {aim : Aim}
    (h : intent.nearestBuilder situation outbox type aim = some choice) :
    intent.mustWait situation outbox = false ∧ choice.2 = aim.target := by
  unfold nearestBuilder at h
  split at h
  · cases h
  · rename_i hwait
    obtain ⟨tag, -, rfl⟩ := Option.map_eq_some_iff.mp h
    exact ⟨Bool.eq_false_iff.mpr hwait, rfl⟩

/-- **What an order for units of a type aims at is what any single agent would get**, with the same
random numbers left. -/
theorem target_of_assignment (h : (intent.assignment situation dispatch type).1 = some choice) :
    intent.target situation dispatch.random =
      (some choice.2, (intent.assignment situation dispatch type).2) := by
  unfold assignment target at *
  cases haction : intent.action with
  | simple =>
    simp only [haction] at h ⊢
    obtain ⟨tag, -, rfl⟩ := Option.map_eq_some_iff.mp h
    rfl
  | exactLocation place | nearLocation place =>
    simp only [haction] at h ⊢
    obtain ⟨aim, haim, hchoice⟩ := Option.bind_eq_some_iff.mp h
    rw [haim, Option.map_some, (target_of_nearestBuilder hchoice).2]
  -- A builder is chosen by its distance only and does not change the target.
  | targetUnit target =>
    simp only [haction] at h ⊢
    obtain ⟨unit, hunit, hchoice⟩ := Option.bind_eq_some_iff.mp h
    rw [hunit, Option.map_some, (target_of_nearestBuilder hchoice).2]
  | harvestMineralsNear place | harvestGasNear place | groupEdit group edit =>
    simp only [haction] at h
    cases h

end

/-! ## Agents -/

/-- The first agent gets its target before the others get theirs. -/
theorem targetEach_cons (intent : Intent) (situation : Situation) (tag : UnitTag)
    (tags : List UnitTag) (random : Random) :
    intent.targetEach situation (tag :: tags) random =
      ((intent.target situation random).1.toList.map (fun target => (tag, target)) ++
        (intent.targetEach situation tags (intent.target situation random).2).1,
      (intent.targetEach situation tags (intent.target situation random).2).2) := by
  rw [targetEach]
  obtain ⟨target, drawn⟩ := intent.target situation random
  cases target <;> rfl

/-- The agents that get a target are among those that ask for one, in the same order. -/
theorem sublist_targetEach (intent : Intent) (situation : Situation) (tags : List UnitTag)
    (random : Random) :
    ((intent.targetEach situation tags random).1.map (·.1)).Sublist tags := by
  induction tags generalizing random with
  | nil => exact List.Sublist.refl _
  | cons tag tags ih =>
    unfold targetEach
    obtain ⟨target, drawn⟩ := intent.target situation random
    cases target with
    | none => exact (ih drawn).cons tag
    | some target => exact (ih drawn).cons_cons tag

/-- An agent that an order finds has nothing to do. -/
theorem isFree_of_mem_targetEach {outbox : Outbox} {tags : List UnitTag} {random : Random}
    {choice : UnitTag × CommandTarget}
    (h : choice ∈ (intent.targetEach situation
      (tags.filter (intent.isFree situation outbox)) random).1) :
    choice.1 ∈ tags ∧ intent.isFree situation outbox choice.1 = true :=
  List.mem_filter.mp ((intent.sublist_targetEach situation _ _).subset (List.mem_map_of_mem h))

/-- An agent can only be told something if its unit is in the snapshot. -/
theorem unit?_of_isFree {outbox : Outbox} {tag : UnitTag}
    (h : intent.isFree situation outbox tag = true) :
    ∃ unit, situation.snapshot.unit? tag = some unit ∧ outbox.pendingFor unit = 0 := by
  unfold isFree at h
  split at h
  · rename_i unit hunit
    exact ⟨unit, hunit, of_decide_eq_true (Bool.and_eq_true_iff.mp h).1⟩
  · cases h

/-- Without an aim nothing is drawn. -/
theorem random_aimAt_of_none {place : Place} {random : Random}
    (h : (intent.aimAt situation place random).1 = none) :
    (intent.aimAt situation place random).2 = random := by
  unfold aimAt at h ⊢
  split
  · rfl
  · split
    · rfl
    · simp_all

/-- An agent that gets no target draws nothing. -/
theorem random_of_target_eq_none {random drawn : Random}
    (h : intent.target situation random = (none, drawn)) : drawn = random := by
  have hnone : (intent.target situation random).1 = none := by rw [h]
  have hdrawn : (intent.target situation random).2 = drawn := by rw [h]
  rw [← hdrawn]
  clear h hdrawn
  unfold target at hnone ⊢
  cases haction : intent.action with
  | exactLocation place | nearLocation place =>
    simp only [haction] at hnone ⊢
    exact random_aimAt_of_none (Option.map_eq_none_iff.mp hnone)
  | _ => rfl

/-- **Agents that get a target get the same one when those who get none do not ask.** -/
theorem targetEach_targeted (intent : Intent) (situation : Situation) (tags : List UnitTag)
    (random : Random) :
    intent.targetEach situation ((intent.targetEach situation tags random).1.map (·.1)) random =
      intent.targetEach situation tags random := by
  induction tags generalizing random with
  | nil => rfl
  | cons tag tags ih =>
    cases htarget : intent.target situation random with
    | mk target drawn =>
      cases target with
      | none =>
        obtain rfl := random_of_target_eq_none htarget
        simp only [targetEach, htarget]
        exact ih drawn
      | some target => simp only [targetEach, htarget, List.map_cons, ih drawn]

/-! ## Both together -/

/-- An order finds no unit twice. -/
theorem nodup_assignments (intent : Intent) (situation : Situation) (dispatch : Dispatch) :
    ((intent.assignments situation dispatch).1.map (·.1)).Nodup := by
  have heach : ∀ test, ((intent.targetEach situation ((dispatch.roster.tagsOf test).filter
      (intent.isFree situation dispatch.outbox)) dispatch.random).1.map (·.1)).Nodup := by
    intro test
    exact (intent.sublist_targetEach situation _ _).nodup
      ((dispatch.roster.nodup_tagsOf test).filter _)
  unfold assignments
  cases intent.assignee with
  | fallback => exact List.nodup_nil
  | unitType type =>
    show ((intent.assignment situation dispatch type).1.toList.map (·.1)).Nodup
    cases (intent.assignment situation dispatch type).1 <;> simp
  | flags capabilities => exact heach _
  | group name => exact heach _

end Intent

end Skirmish
