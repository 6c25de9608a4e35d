import Skirmish.Order.Execution
import Skirmish.Proofs.Roster.Duty

/-!
# What running an order leaves behind

The two ways to run an order differ in the units that they command and in nothing else. `choices`
names those units with their targets for both ways, and `Performed` says what a run leaves behind
once they are known: the commands, the agents that have taken the order up, the order that lists
them, and the releases from the orders that they have left.

## Shape of the proof

Recording several units one after the other is described by `Recorded`, which is stable under
appending (`Recorded.cons`): taking up an order twice is the same as taking it up once, and an agent
that is recorded for the second time has no other order to leave. The runs that edit groups command
nobody and keep every duty, so that `Performed` covers them as well.
-/

namespace Skirmish

/-- A duty after an order has been taken up. -/
def Duty.takeUp (duty : Duty) (order : Order) : Duty where
  isIdle := false
  current := some order.id
  fallback := duty.fallback
  capabilities :=
    if order.intent.ability.buildsGasStructure then duty.capabilities.insert .placingGas
    else duty.capabilities

namespace Order

variable {order : Order} {dispatch : Dispatch}

/-! ## Taking up an order -/

/-- Of its duty, taking up an order changes what the order says. -/
theorem duty_takenUpBy (order : Order) (agent : Agent) :
    (order.takenUpBy agent).duty = agent.duty.takeUp order := by
  unfold takenUpBy Duty.takeUp
  cases order.intent.followUp <;> cases order.intent.ability.buildsGasStructure <;> rfl

/-- Who has taken up an order carries it out. -/
theorem current_takenUpBy (order : Order) (agent : Agent) :
    (order.takenUpBy agent).current = some order.id :=
  congrArg Duty.current (order.duty_takenUpBy agent)

/-- Taking up an order depends on its id and on its intent alone. -/
theorem takenUpBy_congr {other : Order} (hid : other.id = order.id)
    (hintent : other.intent = order.intent) : other.takenUpBy = order.takenUpBy := by
  funext agent
  unfold takenUpBy
  rw [hid, hintent]

/-- To take up an order again makes no difference. -/
theorem takenUpBy_takenUpBy (order : Order) (agent : Agent) :
    order.takenUpBy (order.takenUpBy agent) = order.takenUpBy agent := by
  have hinsert : ∀ s : KeySet Capability,
      (s.insert .placingGas).insert .placingGas = s.insert .placingGas := by
    intro s
    ext capability
    simp
  unfold takenUpBy
  cases order.intent.followUp <;> cases order.intent.ability.buildsGasStructure <;>
    cases hfollowUp : agent.followUp <;>
    simp [Agent.workOn, Agent.thenRun, Agent.gain, hinsert, hfollowUp]

/-! ## Recording -/

/-- What recording the units `tags` leaves behind. -/
structure Recorded (order : Order) (dispatch : Dispatch) (tags : List UnitTag)
    (result : Order × Dispatch) : Prop where
  id : result.1.id = order.id
  intent : result.1.intent = order.intent
  mem_assigned : ∀ t, t ∈ result.1.assigned ↔
    t ∈ order.assigned ∨ t ∈ tags ∧ dispatch.roster.contains t = true
  get? : ∀ t, result.2.roster.get? t =
    if t ∈ tags then (dispatch.roster.get? t).map order.takenUpBy else dispatch.roster.get? t
  mem_released : ∀ o t, (o, t) ∈ result.2.released ↔
    (o, t) ∈ dispatch.released ∨
      t ∈ tags ∧ dispatch.roster.currentOf t = some o ∧ o ≠ order.id
  outbox : result.2.outbox = dispatch.outbox
  random : result.2.random = dispatch.random

/-- Recording nobody leaves everything as it was. -/
theorem Recorded.nil (order : Order) (dispatch : Dispatch) :
    order.Recorded dispatch [] (order, dispatch) := by
  constructor <;> simp

/-- A unit that is not on the roster leaves no trace. -/
theorem recorded_of_missing {tag : UnitTag} (h : dispatch.roster.get? tag = none) (order : Order) :
    order.Recorded dispatch [tag] (order, dispatch) := by
  constructor
  · rfl
  · rfl
  · intro t
    simp only [List.mem_singleton, Table.contains]
    constructor
    · exact Or.inl
    · -- The new case of each condition needs the unit to be on the roster.
      rintro (hold | ⟨rfl, hnew⟩)
      · exact hold
      · rw [h] at hnew
        contradiction
  · intro t
    simp only [List.mem_singleton]
    split
    · rename_i ht
      rw [ht, h]
      rfl
    · rfl
  · intro o t
    simp only [List.mem_singleton]
    constructor
    · exact Or.inl
    · rintro (hold | ⟨rfl, hnew, -⟩)
      · exact hold
      · rw [Roster.currentOf, h] at hnew
        contradiction
  · rfl
  · rfl

/-- Recording one unit. -/
theorem recorded_record (order : Order) (dispatch : Dispatch) (tag : UnitTag) :
    order.Recorded dispatch [tag] (order.record dispatch tag) := by
  unfold record
  cases hagent : dispatch.roster.get? tag with
  | none => exact recorded_of_missing hagent order
  | some agent =>
    constructor
    · rfl
    · rfl
    · intro t
      simp only [assign, KeySet.mem_insert, List.mem_singleton, Table.contains]
      constructor
      · rintro (rfl | h)
        · exact Or.inr ⟨rfl, by rw [hagent]; rfl⟩
        · exact Or.inl h
      · rintro (h | ⟨rfl, -⟩)
        · exact Or.inr h
        · exact Or.inl rfl
    · intro t
      simp only [Table.get?_insert, List.mem_singleton]
      split
      · rename_i ht
        rw [ht, hagent]
        rfl
      · rfl
    · -- Whoever had the unit before lets it go, unless it was this order itself.
      intro o t
      have hcurrent := Roster.currentOf_of_get? hagent
      simp only [List.mem_append, List.mem_map, List.mem_filter, Option.mem_toList,
        decide_eq_true_eq, List.mem_singleton, Prod.mk.injEq]
      constructor
      · rintro (h | ⟨previous, ⟨hprevious, hne⟩, rfl, rfl⟩)
        · exact Or.inl h
        · exact Or.inr ⟨rfl, hcurrent.trans hprevious, hne⟩
      · rintro (h | ⟨rfl, h, hne⟩)
        · exact Or.inl h
        · exact Or.inr ⟨o, ⟨hcurrent.symm.trans h, hne⟩, rfl, rfl⟩
    · rfl
    · rfl

/-- Recording one unit and then others. -/
theorem Recorded.cons {tag : UnitTag} {tags : List UnitTag} {first second : Order × Dispatch}
    (h₁ : order.Recorded dispatch [tag] first) (h₂ : first.1.Recorded first.2 tags second) :
    order.Recorded dispatch (tag :: tags) second := by
  have htake : first.1.takenUpBy = order.takenUpBy := takenUpBy_congr h₁.id h₁.intent
  have hget := h₁.get?
  simp only [List.mem_singleton] at hget
  have hcontains : ∀ t, first.2.roster.contains t = dispatch.roster.contains t := by
    intro t
    rw [Table.contains, Table.contains, hget t]
    split
    · exact Option.isSome_map
    · rfl
  constructor
  · rw [h₂.id, h₁.id]
  · rw [h₂.intent, h₁.intent]
  · intro t
    rw [h₂.mem_assigned, h₁.mem_assigned, hcontains, List.mem_singleton, List.mem_cons, or_assoc,
      ← or_and_right]
  · intro t
    rw [h₂.get?, hget, htake]
    by_cases ht : t = tag <;> by_cases hts : t ∈ tags
    · rw [if_pos hts, if_pos ht, if_pos (List.mem_cons.mpr (Or.inl ht)), Option.map_map]
      congr 1
      funext agent
      exact order.takenUpBy_takenUpBy agent
    · rw [if_neg hts, if_pos ht, if_pos (List.mem_cons.mpr (Or.inl ht))]
    · rw [if_pos hts, if_neg ht, if_pos (List.mem_cons.mpr (Or.inr hts))]
    · rw [if_neg hts, if_neg ht, if_neg]
      rw [List.mem_cons, not_or]
      exact ⟨ht, hts⟩
  · intro o t
    rw [h₂.mem_released, h₁.mem_released, h₁.id, or_assoc]
    refine or_congr_right ?_
    rw [List.mem_singleton, List.mem_cons, or_and_right]
    by_cases ht : t = tag
    · -- Recorded once, the agent has no other order left to leave.
      have hcurrent : first.2.roster.currentOf t = some o → ¬ o ≠ order.id := by
        intro h hne
        rw [Roster.currentOf, hget, if_pos ht] at h
        cases hagent : dispatch.roster.get? t with
        | none => simp [hagent] at h
        | some agent =>
          simp only [hagent, Option.map_some, Option.bind_some, order.current_takenUpBy] at h
          exact hne (Option.some.inj h).symm
      constructor
      · rintro (h | ⟨-, h, hne⟩)
        · exact Or.inl h
        · exact absurd hne (hcurrent h)
      · rintro (h | ⟨-, h, hne⟩)
        · exact Or.inl h
        · exact Or.inl ⟨ht, h, hne⟩
    · have hcurrent : first.2.roster.currentOf t = dispatch.roster.currentOf t := by
        rw [Roster.currentOf, Roster.currentOf, hget, if_neg ht]
      rw [hcurrent]
  · rw [h₂.outbox, h₁.outbox]
  · rw [h₂.random, h₁.random]

/-- Recording several units, by one unit after the other. -/
theorem recorded_recordAll (order : Order) (dispatch : Dispatch) (tags : List UnitTag) :
    order.Recorded dispatch tags (order.recordAll dispatch tags) := by
  induction tags generalizing order dispatch with
  | nil => exact .nil order dispatch
  | cons tag tags ih =>
    exact (recorded_record order dispatch tag).cons (ih _ _)

/-- Recording units changes the duties of these, and of no other. -/
theorem Recorded.duty? {tags : List UnitTag} {result : Order × Dispatch}
    (h : order.Recorded dispatch tags result) (t : UnitTag) :
    result.2.roster.duty? t =
      if t ∈ tags then (dispatch.roster.duty? t).map (·.takeUp order)
      else dispatch.roster.duty? t := by
  rw [Roster.duty?, Roster.duty?, h.get? t]
  split
  · rw [Option.map_map, Option.map_map]
    congr 1
    funext agent
    exact order.duty_takenUpBy agent
  · rfl

/-! ## Both ways to run an order -/

/-- The command of a choice is for the chosen unit. -/
theorem addresses_command_iff (order : Order) {choice : UnitTag × CommandTarget} {tag : UnitTag} :
    (order.command choice).addresses tag = true ↔ choice.1 = tag := by
  unfold command Command.single Command.addresses
  rw [List.contains_iff_mem, List.mem_singleton]
  exact eq_comm

/-- Run an order for one agent, or else for the units that it addresses by itself. -/
def perform (order : Order) (situation : Situation) (dispatch : Dispatch) :
    Option UnitTag → Execution
  | some tag => order.executeFor situation dispatch tag
  | none => order.execute situation dispatch

/-- The units that a run of an order commands, each with its target, and the random numbers after
the targets have been found. -/
def choices (order : Order) (situation : Situation) (dispatch : Dispatch) :
    Option UnitTag → List (UnitTag × CommandTarget) × Random
  | none => order.intent.assignments situation dispatch
  | some tag =>
    if order.mustWaitFor situation dispatch.outbox then ([], dispatch.random)
    else
      let (target, random) := order.intent.target situation dispatch.random
      (target.toList.map fun target => (tag, target), random)

/-- A group edit commands nobody. -/
theorem targetEach_of_groupEdit {intent : Intent} {group : String} {edit : GroupEdit}
    (h : intent.action = .groupEdit group edit) (situation : Situation) (tags : List UnitTag)
    (random : Random) : intent.targetEach situation tags random = ([], random) := by
  induction tags with
  | nil => rfl
  | cons tag tags ih => simp only [Intent.targetEach, Intent.target, h, ih]

/-- A group edit commands nobody and draws nothing. -/
theorem choices_of_groupEdit {group : String} {edit : GroupEdit}
    (h : order.intent.action = .groupEdit group edit) (situation : Situation) (dispatch : Dispatch)
    (agent : Option UnitTag) :
    order.choices situation dispatch agent = ([], dispatch.random) := by
  cases agent with
  | some tag => simp [choices, mustWaitFor, Intent.target, h]
  | none =>
    simp only [choices, Intent.assignments]
    cases order.intent.assignee with
    | fallback => rfl
    | unitType type => simp [Intent.assignment, h]
    | flags capabilities => exact targetEach_of_groupEdit h _ _ _
    | group name => exact targetEach_of_groupEdit h _ _ _

/-- What running an order leaves behind, once the units that it commands are known. -/
structure Performed (order : Order) (dispatch : Dispatch)
    (choices : List (UnitTag × CommandTarget) × Random) (execution : Execution) : Prop where
  id : execution.order.id = order.id
  intent : execution.order.intent = order.intent
  mem_assigned : ∀ t, t ∈ execution.order.assigned ↔
    t ∈ order.assigned ∨ t ∈ choices.1.map (·.1) ∧ dispatch.roster.contains t = true
  duty? : ∀ t, execution.dispatch.roster.duty? t =
    if t ∈ choices.1.map (·.1) then (dispatch.roster.duty? t).map (·.takeUp order)
    else dispatch.roster.duty? t
  mem_released : ∀ o t, (o, t) ∈ execution.dispatch.released ↔
    (o, t) ∈ dispatch.released ∨
      t ∈ choices.1.map (·.1) ∧ dispatch.roster.currentOf t = some o ∧ o ≠ order.id
  outbox : execution.dispatch.outbox = dispatch.outbox ++ choices.1.map order.command
  random : execution.dispatch.random = choices.2

/-- Committing to choices sends their commands and leaves the intent alone. -/
theorem performed_commit (order : Order) (dispatch : Dispatch)
    (choices : List (UnitTag × CommandTarget)) (random : Random) :
    order.Performed dispatch (choices, random) (order.commit dispatch choices random) := by
  -- The commands are issued before anyone is recorded, and recording looks at the roster alone.
  have h := order.recorded_recordAll
    { dispatch with outbox := dispatch.outbox ++ choices.map order.command, random }
    (choices.map (·.1))
  exact ⟨h.id, h.intent, h.mem_assigned, h.duty?, h.mem_released, h.outbox, h.random⟩

/-- A run that leaves the order, the commands and every duty as they are commands nobody. -/
theorem performed_of_duty?_eq (order : Order) (dispatch : Dispatch) (issued : Bool)
    {roster : Roster} (h : roster.duty? = dispatch.roster.duty?) :
    order.Performed dispatch ([], dispatch.random) ⟨issued, order, { dispatch with roster }⟩ := by
  constructor <;> simp [h]

/-- An order that chooses nobody leaves everything but the random numbers as it is. -/
theorem commit_nil (order : Order) (dispatch : Dispatch) (random : Random) :
    order.commit dispatch [] random = ⟨false, order, { dispatch with random }⟩ := by
  simp [commit, recordAll]

/-- An order that edits no group commands its choices, in either way to run it. -/
theorem perform_eq_commit (h : ∀ group edit, order.intent.action ≠ .groupEdit group edit)
    (situation : Situation) (dispatch : Dispatch) (agent : Option UnitTag) :
    order.perform situation dispatch agent =
      order.commit dispatch (order.choices situation dispatch agent).1
        (order.choices situation dispatch agent).2 := by
  cases agent with
  | some tag =>
    simp only [perform, executeFor, choices]
    split
    · exact (order.commit_nil dispatch _).symm
    · rfl
  | none => simp only [perform, execute, choices]

/-- An order edits a group, or it commands its choices. -/
theorem perform_cases (order : Order) (situation : Situation) (dispatch : Dispatch)
    (agent : Option UnitTag) : (∃ group edit, order.intent.action = .groupEdit group edit) ∨
      order.perform situation dispatch agent =
        order.commit dispatch (order.choices situation dispatch agent).1
          (order.choices situation dispatch agent).2 := by
  by_cases hedit : ∃ group edit, order.intent.action = .groupEdit group edit
  · exact Or.inl hedit
  · exact Or.inr (perform_eq_commit (fun group edit h => hedit ⟨group, edit, h⟩) _ _ _)

/-- **Running an order, in either way, leaves behind what its choices say.** -/
theorem performed_perform (order : Order) (situation : Situation) (dispatch : Dispatch)
    (agent : Option UnitTag) :
    order.Performed dispatch (order.choices situation dispatch agent)
      (order.perform situation dispatch agent) := by
  rcases order.perform_cases situation dispatch agent with ⟨group, edit, h⟩ | hcommit
  · rw [choices_of_groupEdit h]
    cases agent with
    | some tag =>
      simp only [perform, executeFor, h]
      exact performed_of_duty?_eq _ _ _ (Roster.duty?_editMember _ _ _ _)
    | none =>
      simp only [perform, execute, h]
      exact performed_of_duty?_eq _ _ _ (Roster.duty?_editMembers _ _ _ _)
  · rw [hcommit]
    exact performed_commit order dispatch _ _

end Order

end Skirmish
