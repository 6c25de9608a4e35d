import Skirmish.Proofs.Order.BothWays
import Skirmish.Proofs.Order.Draws

/-!
# Placing gas structures

A gas structure stands on a geyser, and no geyser carries two of them. `Order.places_gas` says that an
order that places a gas structure at or near a location respects this, in whichever way it is run and
whomever it commands: all its commands are for the geyser that is the nearest to the location of those
that no gas structure claims, and without such a geyser there are none.

## Shape of the proof

Units of a type, agents that are found and an agent that asks for itself are commanded in three
different ways, but what they are sent to is always a target of the order
(`exists_target_of_mem_choices`). So it is enough to look at the target, and that of an order that
places a gas structure is a free geyser (`Intent.isGasSpot_of_target`).
-/

namespace Skirmish

/-- Whether a target is the nearest to a place of the geysers that no gas structure claims. -/
def Situation.IsGasSpot (situation : Situation) (place : Place) (target : CommandTarget) : Prop :=
  ∃ (center : Point) (geyser : UnitView), situation.locate place = some center ∧
    geyser.IsNearest center (situation.snapshot.IsFreeGeyser situation.claimRadius) ∧
      target = .unit geyser.tag

/-- An action is at or near one place only. -/
theorem Action.place_unique {action : Action} {place other : Place}
    (h : action = .exactLocation place ∨ action = .nearLocation place)
    (h' : action = .exactLocation other ∨ action = .nearLocation other) : other = place := by
  rcases h with rfl | rfl <;> rcases h' with h' | h'
  · exact (Action.exactLocation.inj h').symm
  · cases h'
  · cases h'
  · exact (Action.nearLocation.inj h').symm

namespace Intent

variable {intent : Intent} {situation : Situation} {place : Place}

/-- An order to place a gas structure is aimed at no random point. -/
theorem not_scatters_of_gas (gas : intent.ability.buildsGasStructure = true) :
    ¬ ∃ center, intent.Scatters situation center := by
  rintro ⟨center, place, -, hgas, -⟩
  rw [gas] at hgas
  cases hgas

/-- What an order to place a gas structure is aimed at is the nearest free geyser. -/
theorem isGasSpot_of_target (distinct : (situation.snapshot.units.map (·.tag)).Nodup)
    (gas : intent.ability.buildsGasStructure = true)
    (action : intent.action = .exactLocation place ∨ intent.action = .nearLocation place)
    {target : CommandTarget} {before after : Random}
    (h : intent.target situation before = (some target, after)) :
    situation.IsGasSpot place target := by
  have aims : intent.action.kind.aims = true := by
    rcases action with action | action <;>
    · rw [action]
      rfl
  rw [target_eq_aim? aims] at h
  rcases haim : intent.aim? situation before with ⟨found, drawn⟩
  rw [haim] at h
  obtain ⟨aim, rfl, rfl⟩ := Option.map_eq_some_iff.mp (congrArg Prod.fst h)
  -- A gas structure goes neither to a point nor to a unit that is named, which leaves the geyser.
  rcases (aim?_eq_some_iff distinct).mp haim with fixed | scatters
  · cases fixed with
    | geyser placed _ located nearest =>
      obtain rfl := Action.place_unique action placed
      exact ⟨_, _, located, nearest, rfl⟩
    | point _ hgas =>
      rw [gas] at hgas
      cases hgas
    | unit placed =>
      rcases action with action | action <;>
      · rw [action] at placed
        cases placed
  · exact absurd ⟨_, scatters⟩ (not_scatters_of_gas gas)

/-- Whoever gets a target together with others gets one that the order has. -/
theorem exists_target_of_mem_targetEach {tags : List UnitTag} {random : Random}
    {choice : UnitTag × CommandTarget}
    (h : choice ∈ (intent.targetEach situation tags random).1) :
    ∃ before after, intent.target situation before = (some choice.2, after) := by
  induction tags generalizing random with
  | nil => cases h
  | cons tag tags ih =>
    rw [targetEach_cons] at h
    rcases List.mem_append.mp h with h | h
    · obtain ⟨target, htarget, rfl⟩ := List.mem_map.mp h
      exact ⟨random, _, Prod.ext (Option.mem_toList.mp htarget) rfl⟩
    · exact ih h

end Intent

namespace Order

variable {order : Order} {situation : Situation} {dispatch : Dispatch} {agent : Option UnitTag}
  {place : Place}

/-- **Whoever is commanded is sent to a target of the order.** -/
theorem exists_target_of_mem_choices {choice : UnitTag × CommandTarget}
    (h : choice ∈ (order.choices situation dispatch agent).1) :
    ∃ before after, order.intent.target situation before = (some choice.2, after) := by
  cases agent with
  | some tag =>
    unfold choices at h
    dsimp only at h
    split at h
    · cases h
    · obtain ⟨target, htarget, rfl⟩ := List.mem_map.mp h
      exact ⟨dispatch.random, _, Prod.ext (Option.mem_toList.mp htarget) rfl⟩
  | none =>
    unfold choices Intent.assignments at h
    -- Several agents draw one after the other, each from what the one before has left.
    cases assignee : order.intent.assignee with
    | fallback =>
      rw [assignee] at h
      cases h
    | unitType type =>
      simp only [assignee, Option.mem_toList] at h
      exact ⟨dispatch.random, _, Intent.target_of_assignment h⟩
    | flags capabilities | group name =>
      simp only [assignee] at h
      exact Intent.exists_target_of_mem_targetEach h

/-- Whoever takes up an order to place a gas structure is placing one from then on. -/
theorem placingGas_mem_takenUpBy (gas : order.intent.ability.buildsGasStructure = true)
    (agent : Agent) : .placingGas ∈ (order.takenUpBy agent).capabilities := by
  have hcapabilities : (order.takenUpBy agent).capabilities = _ :=
    congrArg Duty.capabilities (order.duty_takenUpBy agent)
  rw [hcapabilities, Duty.takeUp, if_pos gas, KeySet.mem_insert]
  exact Or.inl rfl

/-- What an order does that places a gas structure at or near a place. -/
structure PlacesGas (order : Order) (situation : Situation) (dispatch : Dispatch) (place : Place)
    (execution : Execution) : Prop where
  undrawn : execution.dispatch.random = dispatch.random
  /-- Every command is for the free geyser that is nearest to the place, and every agent that gets
  one is placing gas afterwards. -/
  commands : ∃ commands, execution.dispatch.outbox = dispatch.outbox ++ commands ∧
    ∀ command ∈ commands, situation.IsGasSpot place command.target ∧
      ∀ tag ∈ command.units, ∀ agent, execution.dispatch.roster.get? tag = some agent →
        .placingGas ∈ agent.capabilities
  /-- If every geyser is claimed nobody is commanded. -/
  unplaced : (¬ ∃ geyser, situation.snapshot.IsFreeGeyser situation.claimRadius geyser) →
    execution.dispatch.outbox = dispatch.outbox

/-- **Gas structures are placed on free geysers only**, however the order is run. -/
theorem places_gas (order : Order) (situation : Situation) (dispatch : Dispatch)
    (agent : Option UnitTag) (place : Place)
    (gas : order.intent.ability.buildsGasStructure = true)
    (action : order.intent.action = .exactLocation place ∨
      order.intent.action = .nearLocation place)
    (distinct : (situation.snapshot.units.map (·.tag)).Nodup) :
    order.PlacesGas situation dispatch place (order.perform situation dispatch agent) := by
  have hedit : ∀ group edit, order.intent.action ≠ .groupEdit group edit := by
    intro group edit h
    rcases action with action | action <;>
    · rw [action] at h
      cases h
  have hdone := order.performed_perform situation dispatch agent
  -- In whichever way the order is run, each choice has a target that the intent gave.
  have hspot : ∀ choice ∈ (order.choices situation dispatch agent).1,
      situation.IsGasSpot place choice.2 := by
    intro choice hchoice
    obtain ⟨before, after, htarget⟩ := exists_target_of_mem_choices hchoice
    exact Intent.isGasSpot_of_target distinct gas action htarget
  constructor
  · rw [hdone.random, random_choices (Intent.not_scatters_of_gas gas)]
  · refine ⟨_, hdone.outbox, fun command hcommand => ?_⟩
    obtain ⟨choice, hchoice, rfl⟩ := List.mem_map.mp hcommand
    refine ⟨hspot choice hchoice, fun tag htag after hafter => ?_⟩
    obtain rfl := List.mem_singleton.mp htag
    rw [perform_eq_commit hedit, get?_commit, if_pos (List.mem_map_of_mem hchoice)] at hafter
    obtain ⟨agent, -, rfl⟩ := Option.map_eq_some_iff.mp hafter
    exact placingGas_mem_takenUpBy gas agent
  · intro hclaimed
    have hnobody : (order.choices situation dispatch agent).1 = [] := by
      refine List.eq_nil_iff_forall_not_mem.mpr fun choice hchoice => ?_
      obtain ⟨center, geyser, -, nearest, -⟩ := hspot choice hchoice
      exact hclaimed ⟨geyser, nearest.meets⟩
    rw [hdone.outbox, hnobody, List.map_nil, List.append_nil]

end Order

namespace SmallGame

/-- A world with two geysers, of which the nearer one is claimed by a gas structure of the enemy that
is not finished. -/
def gasField : Situation :=
  { crewed with
    snapshot := { Snapshot.blank with
      units :=
        [.ofType ⟨7⟩ .protossProbe .origin,
          { UnitView.ofType ⟨31⟩ .neutralVespeneGeyser ⟨7, 0⟩ with alliance := .neutral },
          { UnitView.ofType ⟨32⟩ .neutralVespeneGeyser ⟨0, 9⟩ with alliance := .neutral },
          { UnitView.ofType ⟨33⟩ .protossAssimilator ⟨7, 0⟩ with
            alliance := .enemy, buildProgress := 0.5 }] } }

/-- An order to build an assimilator near home. -/
def assimilate : Order := .issue ⟨25⟩
  (.unitTypeNear .protossProbe .buildAssimilator .startLocation Intent.defaultRadius)

end SmallGame

/-- The worker is sent to the geyser that is farther away, and is placing gas from then on. -/
theorem Order.places_gas_farther :
    SmallGame.assimilate.PlacesGas SmallGame.gasField SmallGame.untold .startLocation
        (SmallGame.assimilate.perform SmallGame.gasField SmallGame.untold none) ∧
      (SmallGame.assimilate.perform SmallGame.gasField SmallGame.untold none).dispatch.outbox =
        [.single ⟨7⟩ .buildAssimilator (.unit ⟨32⟩)] ∧
      (SmallGame.assimilate.perform SmallGame.gasField SmallGame.untold
        none).dispatch.roster.withCapability .placingGas = [⟨7⟩] :=
  ⟨places_gas _ _ _ _ _ (by decide) (Or.inr rfl) (by decide), by decide, by decide⟩

end Skirmish
