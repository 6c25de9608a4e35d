import Skirmish.Proofs.Order.Aim
import Skirmish.Proofs.Order.BothWays

/-!
# Sending the nearest unit

An order for units of a type that has an aim sends one unit there: the nearest to the aim of those
that fit the order and are building nothing. `Order.sends_nearest` says when it sends one, which one,
and what is left behind in either case.

## Shape of the proof

The search for a unit is `Intent.nearestBuilder`. What it finds is the nearest of the units that the
order can send (`exists_isNearest_of_nearestBuilder`), and it finds nobody only if there is none or the
order has to wait (`nearestBuilder_eq_none`). The aim comes from `Intent.aim?`, which has been replaced
by `Intent.AimsAt` already, so that running the order is committing to at most one choice
(`Order.execute_eq_of_aims`), and the three cases (no aim, nobody to send, somebody) remain. Each of
them has a lemma, from `SendsNearest.of_unaimed` to `SendsNearest.of_isNearest`.
-/

namespace Skirmish

/-! ## Who is sent -/

namespace Intent

variable {intent : Intent} {situation : Situation} {outbox : Outbox} {type : UnitType} {aim : Aim}

/-- Whether the order can send a unit to its aim. -/
structure CanSend (intent : Intent) (situation : Situation) (outbox : Outbox) (type : UnitType)
    (unit : UnitView) : Prop where
  fits : intent.Fits situation type unit
  unengaged : outbox.Unengaged unit

/-- Whether the order need not wait for its ability. -/
def MayUse (intent : Intent) (situation : Situation) (outbox : Outbox) : Prop :=
  intent.allowsMultiple = true ∨ ¬ outbox.InUse situation.snapshot intent.ability

/-- The builders are the units that the order can send. -/
theorem mem_builders {unit : UnitView} : unit ∈ intent.builders situation outbox type ↔
    intent.CanSend situation outbox type unit := by
  rw [builders, List.mem_filter, Bool.and_eq_true, ← and_assoc, ← fits_iff, Bool.not_eq_true',
    Outbox.isConstructing_eq_false_iff]
  exact ⟨fun h => ⟨h.1, h.2⟩, fun h => ⟨h.fits, h.unengaged⟩⟩

/-- **The unit that is found is the nearest that can be sent.** -/
theorem exists_isNearest_of_nearestBuilder {choice : UnitTag × CommandTarget}
    (h : intent.nearestBuilder situation outbox type aim = some choice) :
    intent.MayUse situation outbox ∧
      ∃ unit : UnitView, unit.IsNearest aim.point (intent.CanSend situation outbox type) ∧
        choice = (unit.tag, aim.target) := by
  have hwait := (target_of_nearestBuilder h).1
  rw [nearestBuilder, hwait, if_neg Bool.false_ne_true] at h
  obtain ⟨tag, htag, rfl⟩ := Option.map_eq_some_iff.mp h
  obtain ⟨unit, rfl, hnearest⟩ := UnitView.exists_isNearest_of_nearestTo htag
  exact ⟨mustWait_eq_false_iff.mp hwait, unit,
    (UnitView.isNearest_congr fun _ => mem_builders).mp hnearest, rfl⟩

/-- Without a builder the order has to wait or there is no unit to send. -/
theorem nearestBuilder_eq_none (h : intent.nearestBuilder situation outbox type aim = none) :
    ¬ (intent.MayUse situation outbox ∧ ∃ unit, intent.CanSend situation outbox type unit) := by
  rintro ⟨hmay, unit, hunit⟩
  rw [nearestBuilder, mustWait_eq_false_iff.mpr hmay, if_neg Bool.false_ne_true,
    Option.map_eq_none_iff, UnitView.nearestTo_eq_none_iff] at h
  have hmem := mem_builders.mpr hunit
  rw [h] at hmem
  cases hmem

/-- An order with an aim looks for the nearest unit that it can send there. -/
theorem assignment_of_aims (h : intent.action.kind.aims = true) (dispatch : Dispatch) :
    intent.assignment situation dispatch type =
      ((intent.aim? situation dispatch.random).1.bind
          (intent.nearestBuilder situation dispatch.outbox type),
        (intent.aim? situation dispatch.random).2) := by
  unfold assignment aim?
  cases action : intent.action with
  | exactLocation place | nearLocation place => rfl
  | targetUnit target =>
    simp only
    cases situation.target target <;> rfl
  | simple | harvestMineralsNear place | harvestGasNear place | groupEdit group edit =>
    rw [action] at h
    cases h

end Intent

namespace Order

variable {order : Order} {situation : Situation} {dispatch : Dispatch} {type : UnitType}

/-! ## What is left behind -/

/-- What an order for units of a type with an aim does: it sends the nearest unit, or nobody. -/
structure SendsNearest (order : Order) (situation : Situation) (dispatch : Dispatch)
    (type : UnitType) (execution : Execution) : Prop where
  /-- Somebody is sent just if there is an aim, somebody can be sent there, and the ability need not
  be waited for. -/
  issued_iff : execution.issued = true ↔
    (∃ aim after, order.intent.AimsAt situation dispatch.random aim after) ∧
      (∃ unit, order.intent.CanSend situation dispatch.outbox type unit) ∧
        order.intent.MayUse situation dispatch.outbox
  /-- The one command goes to the nearest unit and is for the aim; that unit is recorded, and nobody
  else. -/
  sent : execution.issued = true →
    ∃ (aim : Aim) (after : Random) (unit : UnitView),
      order.intent.AimsAt situation dispatch.random aim after ∧
        unit.IsNearest aim.point (order.intent.CanSend situation dispatch.outbox type) ∧
          order.Recorded
            { dispatch with
              outbox := dispatch.outbox ++ [.single unit.tag order.intent.ability aim.target]
              random := after }
            [unit.tag] execution.outcome
  /-- Otherwise at most a random point has been drawn. -/
  unsent : execution.issued = false →
    execution.outcome = (order, { dispatch with random := execution.dispatch.random })
  /-- The random numbers are those after the aim, also if nobody is sent. -/
  random : ∀ aim after, order.intent.AimsAt situation dispatch.random aim after →
    execution.dispatch.random = after
  undrawn : (¬ ∃ aim after, order.intent.AimsAt situation dispatch.random aim after) →
    execution.dispatch.random = dispatch.random

/-- An order for a type that aims commits to the nearest builder for its aim. -/
theorem execute_eq_of_aims (assignee : order.intent.assignee = .unitType type)
    (aims : order.intent.action.kind.aims = true) (situation : Situation) (dispatch : Dispatch) :
    order.execute situation dispatch =
      order.commit dispatch
        ((order.intent.aim? situation dispatch.random).1.bind
          (order.intent.nearestBuilder situation dispatch.outbox type)).toList
        (order.intent.aim? situation dispatch.random).2 := by
  have hedit : ∀ group edit, order.intent.action ≠ .groupEdit group edit := by
    intro group edit action
    rw [action] at aims
    cases aims
  have hcommit := perform_eq_commit hedit situation dispatch none
  rw [choices, Intent.assignments, assignee] at hcommit
  simp only [Intent.assignment_of_aims aims] at hcommit
  exact hcommit

/-- Without an aim nothing happens. -/
theorem SendsNearest.of_unaimed
    (unaimed : ¬ ∃ aim after, order.intent.AimsAt situation dispatch.random aim after) :
    order.SendsNearest situation dispatch type ⟨false, order, dispatch⟩ where
  issued_iff := ⟨nofun, fun h => absurd h.1 unaimed⟩
  sent := nofun
  unsent := fun _ => rfl
  random := fun aim after h => absurd ⟨aim, after, h⟩ unaimed
  undrawn := fun _ => rfl

section

variable (distinct : (situation.snapshot.units.map (·.tag)).Nodup) {aim : Aim} {after : Random}
  (aimed : order.intent.AimsAt situation dispatch.random aim after)
include distinct aimed

/-- If nobody can be sent, the random numbers have been drawn all the same. -/
theorem SendsNearest.of_nobody
    (nobody : ¬ (order.intent.MayUse situation dispatch.outbox ∧
      ∃ unit, order.intent.CanSend situation dispatch.outbox type unit)) :
    order.SendsNearest situation dispatch type
      ⟨false, order, { dispatch with random := after }⟩ where
  issued_iff := ⟨nofun, fun h => absurd ⟨h.2.2, h.2.1⟩ nobody⟩
  sent := nofun
  unsent := fun _ => rfl
  random := fun _ _ h => aimed.random_eq distinct h
  undrawn := fun h => absurd ⟨aim, after, aimed⟩ h

/-- A nearest unit that may be sent is sent. -/
theorem SendsNearest.of_isNearest (may : order.intent.MayUse situation dispatch.outbox)
    {unit : UnitView}
    (nearest : unit.IsNearest aim.point (order.intent.CanSend situation dispatch.outbox type)) :
    order.SendsNearest situation dispatch type
      (order.commit dispatch [(unit.tag, aim.target)] after) := by
  have hdone := order.performed_commit dispatch [(unit.tag, aim.target)] after
  exact {
    issued_iff := ⟨fun _ => ⟨⟨aim, after, aimed⟩, ⟨unit, nearest.meets⟩, may⟩, fun _ => rfl⟩
    sent := fun _ => ⟨aim, after, unit, aimed, nearest, order.recorded_recordAll _ _⟩
    unsent := nofun
    random := fun _ _ h => hdone.random.trans (aimed.random_eq distinct h)
    undrawn := fun h => absurd ⟨aim, after, aimed⟩ h }

end

/-- **An order with an aim sends the nearest unit that it can send.** -/
theorem sends_nearest (order : Order) (situation : Situation) (dispatch : Dispatch)
    (type : UnitType) (assignee : order.intent.assignee = .unitType type)
    (aims : order.intent.action.kind.aims = true)
    (distinct : (situation.snapshot.units.map (·.tag)).Nodup) :
    order.SendsNearest situation dispatch type (order.execute situation dispatch) := by
  rw [execute_eq_of_aims assignee aims]
  rcases haim : order.intent.aim? situation dispatch.random with ⟨found, after⟩
  cases found with
  | none =>
    obtain rfl := Intent.random_of_aim?_eq_none haim
    rw [Option.bind_none, Option.toList_none, commit_nil]
    refine .of_unaimed ?_
    rintro ⟨aim, after, aimed⟩
    have hsome := (Intent.aim?_eq_some_iff distinct).mpr aimed
    rw [haim] at hsome
    cases hsome
  | some aim =>
    have aimed := (Intent.aim?_eq_some_iff distinct).mp haim
    rw [Option.bind_some]
    -- The aim is drawn by now, whether or not there is a builder for it.
    cases hfound : order.intent.nearestBuilder situation dispatch.outbox type aim with
    | none =>
      rw [Option.toList_none, commit_nil]
      exact .of_nobody distinct aimed (Intent.nearestBuilder_eq_none hfound)
    | some choice =>
      obtain ⟨may, unit, nearest, rfl⟩ := Intent.exists_isNearest_of_nearestBuilder hfound
      exact .of_isNearest distinct aimed may nearest

/-- The first of two workers at home is sent to build a pylon there. -/
theorem sends_nearest_build :
    SmallGame.build.SendsNearest SmallGame.crewed SmallGame.untold .protossProbe
        (SmallGame.build.execute SmallGame.crewed SmallGame.untold) ∧
      (SmallGame.build.execute SmallGame.crewed SmallGame.untold).dispatch.outbox =
        [.single ⟨7⟩ .buildPylon (.point .origin)] :=
  ⟨sends_nearest _ _ _ _ rfl rfl (by decide), by decide⟩

end Order

end Skirmish
