import Skirmish.Proofs.Order.Aim
import Skirmish.Proofs.Order.Execution

/-!
# What is drawn

Random numbers are drawn for one thing only, a point near a location, and such a point takes two
words (`Random.random_pointInDisk`). An order that is aimed at nothing of this kind leaves the random
numbers as they are, whoever runs it (`Order.random_choices`).

An order that commands nobody has nearly always drawn nothing either. The exception is an order for
units of a type: it aims before it looks for a unit, so that the point may have been drawn in vain
(`Order.random_choices_of_nil`).
-/

namespace Skirmish

namespace Random

/-- The source after so many more words. -/
def advance (random : Random) (count : Nat) : Random :=
  { random with drawn := random.drawn + count }

/-- A point of a disk takes two words, one for its distance and one for its direction. -/
theorem random_pointInDisk (random : Random) (center : Point) (radius : Number.Single) :
    (random.pointInDisk center radius).2 = random.advance 2 := rfl

end Random

namespace Intent

variable {intent : Intent} {situation : Situation} {random : Random}

/-! ## Without random points -/

section

variable (steady : ¬ ∃ center, intent.Scatters situation center)
include steady

/-- Aiming at a place draws nothing, unless the order scatters. -/
theorem random_aimAt {place : Place}
    (action : intent.action = .exactLocation place ∨ intent.action = .nearLocation place)
    (random : Random) : (intent.aimAt situation place random).2 = random := by
  cases located : situation.locate place with
  | none => rw [aimAt_of_locate_eq_none located]
  | some center =>
    cases gas : intent.ability.buildsGasStructure with
    | true => rw [aimAt_of_gas located gas]
    | false =>
      rcases action with action | action
      · simp only [aimAt_of_not_gas located gas, pointNear, action]
      · exact absurd ⟨center, place, action, gas, located⟩ steady

/-- Choosing a target draws nothing, unless the order scatters. -/
theorem random_target (random : Random) : (intent.target situation random).2 = random := by
  unfold target
  cases action : intent.action with
  | exactLocation place => exact random_aimAt steady (Or.inl action) random
  | nearLocation place => exact random_aimAt steady (Or.inr action) random
  | simple | targetUnit target | harvestMineralsNear place | harvestGasNear place
  | groupEdit group edit => rfl

/-- Choosing a target for each of several agents draws nothing, unless the order scatters. -/
theorem random_targetEach (tags : List UnitTag) (random : Random) :
    (intent.targetEach situation tags random).2 = random := by
  induction tags generalizing random with
  | nil => rfl
  | cons tag tags ih => rw [targetEach_cons, ih, random_target steady]

/-- Choosing a unit of a type draws nothing, unless the order scatters. -/
theorem random_assignment (dispatch : Dispatch) (type : UnitType) :
    (intent.assignment situation dispatch type).2 = dispatch.random := by
  unfold assignment
  cases action : intent.action with
  | exactLocation place => exact random_aimAt steady (Or.inl action) dispatch.random
  | nearLocation place => exact random_aimAt steady (Or.inr action) dispatch.random
  | simple | targetUnit target | harvestMineralsNear place | harvestGasNear place
  | groupEdit group edit => rfl

end

/-! ## With random points -/

/-- An order for units of a type has drawn its point, whether or not it finds a unit. -/
theorem random_assignment_of_scatters {center : Point} (h : intent.Scatters situation center)
    (dispatch : Dispatch) (type : UnitType) :
    (intent.assignment situation dispatch type).2 = dispatch.random.advance 2 := by
  obtain ⟨place, action, gas, located⟩ := h
  simp only [assignment, action, aimAt_of_not_gas located gas, pointNear]
  exact Random.random_pointInDisk dispatch.random center intent.proximity

/-- If nobody gets a target, nothing is drawn. -/
theorem random_targetEach_of_nil {tags : List UnitTag}
    (h : (intent.targetEach situation tags random).1 = []) :
    (intent.targetEach situation tags random).2 = random := by
  induction tags generalizing random with
  | nil => rfl
  | cons tag tags ih =>
    rw [targetEach_cons] at h ⊢
    obtain ⟨hfirst, hrest⟩ := List.append_eq_nil_iff.mp h
    rcases htarget : intent.target situation random with ⟨_ | target, drawn⟩
    · obtain rfl := random_of_target_eq_none htarget
      rw [htarget] at hrest
      exact ih hrest
    · rw [htarget] at hfirst
      cases hfirst

end Intent

namespace Order

variable {order : Order} {situation : Situation} {dispatch : Dispatch}

/-- **Without random points nothing is drawn**, in either way to run an order. -/
theorem random_choices (steady : ¬ ∃ center, order.intent.Scatters situation center)
    (dispatch : Dispatch) (agent : Option UnitTag) :
    (order.choices situation dispatch agent).2 = dispatch.random := by
  cases agent with
  | some tag =>
    unfold choices
    dsimp only
    split
    · rfl
    · exact Intent.random_target steady dispatch.random
  | none =>
    unfold choices Intent.assignments
    cases order.intent.assignee with
    | fallback => rfl
    | unitType type => exact Intent.random_assignment steady dispatch type
    | flags capabilities | group name => exact Intent.random_targetEach steady _ _

/-- Whether a run of an order draws its random point before it knows whom to send there. -/
def DrawsFirst (order : Order) (situation : Situation) (agent : Option UnitTag) : Prop :=
  agent = none ∧ (∃ type, order.intent.assignee = .unitType type) ∧
    ∃ center, order.intent.Scatters situation center

/-- **An order that commands nobody has drawn nothing**, or one point that it has drawn first. -/
theorem random_choices_of_nil {agent : Option UnitTag}
    (h : (order.choices situation dispatch agent).1 = []) :
    (order.choices situation dispatch agent).2 = dispatch.random ∨
      order.DrawsFirst situation agent ∧
        (order.choices situation dispatch agent).2 = dispatch.random.advance 2 := by
  by_cases steady : ¬ ∃ center, order.intent.Scatters situation center
  · exact Or.inl (random_choices steady dispatch agent)
  · obtain ⟨center, scatters⟩ := Classical.not_not.mp steady
    cases agent with
    | some tag =>
      left
      unfold choices at h ⊢
      dsimp only at h ⊢
      split
      · rfl
      · rename_i hready
        rw [if_neg hready, Intent.target_of_scatters scatters] at h
        cases h
    | none =>
      unfold choices Intent.assignments at h ⊢
      cases assignee : order.intent.assignee with
      | fallback => exact Or.inl rfl
      -- The aim is drawn before a unit is looked for, also when there is none.
      | unitType type =>
        exact Or.inr ⟨⟨rfl, ⟨type, assignee⟩, center, scatters⟩,
          Intent.random_assignment_of_scatters scatters dispatch type⟩
      | flags capabilities | group name =>
        simp only [assignee] at h
        exact Or.inl (Intent.random_targetEach_of_nil h)

end Order

end Skirmish
