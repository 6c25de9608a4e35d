import Skirmish.Proofs.Session.Reachable
import Skirmish.Proofs.World.Relisting

/-!
# A tick does not depend on the order in which units are listed

`step_eq_of_perm` compares two ticks that start from the same session and see the same world, with
its units listed in two different orders. They give the same report, send the same commands in the
same order, and leave the same session behind, the random numbers and the lists of all orders
included.

The proof follows the definitions from the bottom up. Whatever looks at the snapshot has a lemma
`…_relist` that it does not see the difference, and nothing but the lemmas for snapshots in
`Skirmish.Proofs.World.Relisting` goes into them.
-/

namespace Skirmish

/-- The situation with other units in its snapshot. -/
def Situation.relist (situation : Situation) (units : List UnitView) : Situation :=
  { situation with snapshot := situation.snapshot.relist units }

section

variable {situation : Situation} {units : List UnitView} (h : situation.snapshot.Relisting units)
include h

/-! ## Targets -/

theorem Situation.target_relist (target : TargetUnit) :
    (situation.relist units).target target = situation.target target := by
  unfold Situation.target TargetUnit.resolve
  cases target with
  | unit tag => exact Snapshot.unit?_relist h tag
  | ofType type => exact Snapshot.firstOfType?_relist h type
  | storedType name =>
    refine congrArg (Option.bind _) ?_
    funext type
    exact Snapshot.firstOfType?_relist h type

/-- The same abilities are in flight. -/
theorem Outbox.inFlight_relist (outbox : Outbox) (ability : Ability) :
    outbox.inFlight (situation.relist units).snapshot ability =
      outbox.inFlight situation.snapshot ability := by
  unfold Outbox.inFlight
  rw [show (situation.relist units).snapshot = situation.snapshot.relist units from rfl,
    (Snapshot.ownUnits_relist h).any_eq]

namespace Intent

variable (intent : Intent)

theorem mustWait_relist (outbox : Outbox) :
    intent.mustWait (situation.relist units) outbox = intent.mustWait situation outbox := by
  unfold mustWait
  rw [Outbox.inFlight_relist h]

theorem aimAt_relist (place : Place) (random : Random) :
    intent.aimAt (situation.relist units) place random = intent.aimAt situation place random := by
  unfold aimAt
  rw [show (situation.relist units).locate place = situation.locate place from rfl]
  cases situation.locate place with
  | none => rfl
  | some center =>
    show (if _ then (((situation.snapshot.relist units).nearestFreeGeyser? center _).map _, _)
      else _) = _
    rw [Snapshot.nearestFreeGeyser?_relist h]
    rfl

theorem target_relist (random : Random) :
    intent.target (situation.relist units) random = intent.target situation random := by
  unfold target
  -- Each kind of target is looked up in the snapshot by a function that does not see the sequence.
  cases intent.action with
  | simple => rfl
  | exactLocation place | nearLocation place =>
    exact congrArg (fun aimed : Option Aim × Random => (aimed.1.map (·.target), aimed.2))
      (aimAt_relist h intent place random)
  | targetUnit target =>
    show (((situation.relist units).target target).map _, random) = _
    rw [Situation.target_relist h]
  | harvestMineralsNear place =>
    show (((situation.locate place).bind
      (situation.snapshot.relist units).nearestMineralPatch?).map _, random) = _
    rw [show (situation.snapshot.relist units).nearestMineralPatch? = _ from
      funext (Snapshot.nearestMineralPatch?_relist h)]
  | harvestGasNear place =>
    show (((situation.locate place).bind
      (situation.snapshot.relist units).nearestGasStructure?).map _, random) = _
    rw [show (situation.snapshot.relist units).nearestGasStructure? = _ from
      funext (Snapshot.nearestGasStructure?_relist h)]
  | groupEdit group edit => rfl

/-! ## Units of a type -/

theorem nearestBuilder_relist (outbox : Outbox) (type : UnitType) (aim : Aim) :
    intent.nearestBuilder (situation.relist units) outbox type aim =
      intent.nearestBuilder situation outbox type aim := by
  have hbuilders : (intent.builders (situation.relist units) outbox type).Perm
      (intent.builders situation outbox type) := (Snapshot.ownUnits_relist h).filter _
  unfold nearestBuilder
  rw [mustWait_relist h, nearestTo_eq_of_perm aim.point (hbuilders.map _)]

theorem firstFree_relist (outbox : Outbox) (type : UnitType) :
    intent.firstFree (situation.relist units) outbox type =
      intent.firstFree situation outbox type := by
  have hfree : (intent.freeUnits (situation.relist units) outbox type).Perm
      (intent.freeUnits situation outbox type) := (Snapshot.ownUnits_relist h).filter _
  have hleast := least_key_eq_of_perm (fun tag : UnitTag => tag) (fun _ _ _ _ htag => htag)
    (hfree.map (·.tag))
  exact congrArg (Option.map _) hleast

/-- The same unit of a type is commanded. -/
theorem assignment_relist (dispatch : Dispatch) (type : UnitType) :
    intent.assignment (situation.relist units) dispatch type =
      intent.assignment situation dispatch type := by
  -- The distances are the same and the least candidate does not depend on the sequence.
  have hnearest : intent.nearestBuilder (situation.relist units) dispatch.outbox type =
      intent.nearestBuilder situation dispatch.outbox type :=
    funext (nearestBuilder_relist h intent dispatch.outbox type)
  unfold assignment
  rw [firstFree_relist h, hnearest]
  cases intent.action with
  | simple => rfl
  | exactLocation place | nearLocation place =>
    exact congrArg (fun aimed : Option Aim × Random =>
        (aimed.1.bind (intent.nearestBuilder situation dispatch.outbox type), aimed.2))
      (aimAt_relist h intent place dispatch.random)
  | targetUnit target =>
    show (((situation.relist units).target target).bind _, dispatch.random) = _
    rw [Situation.target_relist h]
  | harvestMineralsNear place | harvestGasNear place | groupEdit group edit => rfl

/-! ## Agents -/

/-- The same agents are free. -/
theorem isFree_relist (outbox : Outbox) :
    intent.isFree (situation.relist units) outbox = intent.isFree situation outbox := by
  funext tag
  unfold isFree
  rw [show (situation.relist units).snapshot.unit? tag = situation.snapshot.unit? tag from
    Snapshot.unit?_relist h tag]
  rfl

theorem targetEach_relist (tags : List UnitTag) :
    intent.targetEach (situation.relist units) tags = intent.targetEach situation tags := by
  induction tags with
  | nil => rfl
  | cons tag tags ih =>
    funext random
    unfold targetEach
    rw [target_relist h, ih]

/-- The same units are commanded. -/
theorem assignments_relist (dispatch : Dispatch) :
    intent.assignments (situation.relist units) dispatch =
      intent.assignments situation dispatch := by
  unfold assignments
  rw [isFree_relist h]
  cases intent.assignee with
  | fallback => rfl
  | unitType type =>
    exact congrArg (fun chosen : Option (UnitTag × CommandTarget) × Random =>
      (chosen.1.toList, chosen.2)) (assignment_relist h intent dispatch type)
  | flags capabilities => exact congrFun (targetEach_relist h intent _) _
  | group name => exact congrFun (targetEach_relist h intent _) _

end Intent

/-! ## Running orders -/

namespace Order

variable (order : Order)

theorem execute_relist (dispatch : Dispatch) :
    order.execute (situation.relist units) dispatch = order.execute situation dispatch := by
  unfold execute
  rw [Intent.assignments_relist h]
  rfl

theorem executeFor_relist (dispatch : Dispatch) (tag : UnitTag) :
    order.executeFor (situation.relist units) dispatch tag =
      order.executeFor situation dispatch tag := by
  have hwait : order.mustWaitFor (situation.relist units) dispatch.outbox =
      order.mustWaitFor situation dispatch.outbox := by
    unfold mustWaitFor
    rw [Intent.mustWait_relist h]
  unfold executeFor
  rw [hwait, Intent.target_relist h]

end Order

end

/-! ## Ticks -/

namespace Session

section

variable {snapshot : Snapshot} {units : List UnitView} (h : snapshot.Relisting units)
include h

/-- A run is the same. -/
theorem run_relist (session : Session) (id : OrderId) (agent : Option UnitTag) :
    session.run (snapshot.relist units) id agent = session.run snapshot id agent := by
  have hsituation : session.situation (snapshot.relist units) =
      (session.situation snapshot).relist units := rfl
  unfold run
  rw [hsituation]
  cases session.book.orders.get? id with
  | none => rfl
  | some order =>
    refine congrArg (fun execution : Execution =>
      ((⟨id, agent, execution.issued⟩ : Run), session.absorb execution)) ?_
    cases agent with
    | none => exact Order.execute_relist h order session.dispatch
    | some tag => exact Order.executeFor_relist h order session.dispatch tag

theorem runAllIdle_relist (tags : List UnitTag) :
    runAllIdle (snapshot.relist units) tags = runAllIdle snapshot tags := by
  induction tags with
  | nil => rfl
  | cons tag tags ih =>
    funext session
    have hidle : session.runIdle (snapshot.relist units) tag = session.runIdle snapshot tag := by
      unfold runIdle
      simp only [run_relist h]
    unfold runAllIdle
    rw [hidle, ih]

theorem runRules_relist (ids : List OrderId) :
    runRules (snapshot.relist units) ids = runRules snapshot ids := by
  induction ids with
  | nil => rfl
  | cons id ids ih =>
    funext session
    unfold runRules
    rw [run_relist h, ih]

/-- A tick plays the same. -/
theorem playTick_relist (session : Session) :
    session.playTick (snapshot.relist units) = session.playTick snapshot := by
  have hfiring : ∀ session : Session,
      session.firing (snapshot.relist units) = session.firing snapshot := by
    intro session
    unfold firing
    cases session.strategy with
    | none => rfl
    | some rules => exact Snapshot.firing_relist h rules
  unfold playTick
  simp only [Snapshot.syncPositions_relist h, runAllIdle_relist h, hfiring, runRules_relist h]

end

/-- **A tick does not depend on the order in which units are listed.** If no two units share a tag,
then listing them in another order gives the same report, the same commands and the same session. -/
theorem step_eq_of_perm (session : Session) (snapshot : Snapshot) (units : List UnitView)
    (perm : units.Perm snapshot.units) (distinct : (snapshot.units.map (·.tag)).Nodup) :
    session.step { snapshot with units } = session.step snapshot := by
  have htick : session.playTick { snapshot with units } = session.playTick snapshot :=
    playTick_relist ⟨perm, distinct⟩ session
  unfold step
  rw [htick]
  rfl

/-- Whichever way the three units are listed, the two rules for a pylon do the same. -/
theorem step_eq_of_perm_rivals :
    SmallGame.building.units.reverse ≠ SmallGame.building.units ∧
      SmallGame.rivals.step { SmallGame.building with units := SmallGame.building.units.reverse } =
        SmallGame.rivals.step SmallGame.building := by
  refine ⟨by decide, ?_⟩
  exact step_eq_of_perm _ _ _ (List.reverse_perm _) (by decide)

end Session

end Skirmish
