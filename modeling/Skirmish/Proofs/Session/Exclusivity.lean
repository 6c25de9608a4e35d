import Skirmish.Proofs.Session.CrossReference

/-!
# An exclusive ability is used once

An order that is exclusive waits while its ability is in flight. `sent_exclusive` says what this comes
to in a whole tick: if every stored order for an ability is exclusive, chooses at most one unit and
aims it at a location or at a unit, then the tick sends at most one command with the ability, and
none if one of our units is using it already.

## Shape of the proof

`OrderBook.Reserves` collects what is asked of the stored orders; since a tick changes no intent, it
holds at every run. `Order.choices_of_waits` covers the two ways to run such an order: it commands
nobody while the ability is in flight, and at most one unit otherwise. The commands of earlier runs
are in the outbox, where later runs look for the ability, so the number of commands with the ability
never passes the bound (`ReservedBelow`).
-/

namespace Skirmish

/-! ## Orders that wait -/

namespace Intent

/-- Whether an order with this intent waits while its ability is in flight, and commands one unit at
most. -/
def Waits (intent : Intent) : Prop :=
  intent.multiplicity = .exclusive ∧
    (intent.assignee.kind = .unitType ∨ intent.assignee.kind = .fallback) ∧
    intent.action.kind ∈
      [ActionKind.exactLocation, .nearLocation, .targetUnit, .groupEdit]

instance (intent : Intent) : Decidable intent.Waits := inferInstanceAs (Decidable (_ ∧ _ ∧ _))

variable {intent : Intent}

/-- Who must wait for an ability sends no builder. -/
theorem nearestBuilder_of_mustWait {situation : Situation} {outbox : Outbox}
    (h : intent.mustWait situation outbox = true) (type : UnitType) (aim : Aim) :
    intent.nearestBuilder situation outbox type aim = none := by
  rw [nearestBuilder, if_pos h]

/-- An order that is aimed at something finds no unit of its type while it has to wait. -/
theorem assignment_of_mustWait (waits : intent.Waits) {situation : Situation} {dispatch : Dispatch}
    (h : intent.mustWait situation dispatch.outbox = true) (type : UnitType) :
    (intent.assignment situation dispatch type).1 = none := by
  have hnone : ∀ aim, intent.nearestBuilder situation dispatch.outbox type aim = none :=
    nearestBuilder_of_mustWait h type
  -- A simple action takes the first free unit and does not wait, so it is left out here.
  have hkind := waits.2.2
  unfold assignment
  cases haction : intent.action with
  | simple => simp [haction, Action.kind] at hkind
  | exactLocation place | nearLocation place =>
    show ((intent.aimAt situation place dispatch.random).1.bind _) = none
    rw [Option.bind_eq_none_iff]
    exact fun aim _ => hnone aim
  | targetUnit target =>
    show ((situation.target target).bind _) = none
    rw [Option.bind_eq_none_iff]
    exact fun unit _ => hnone _
  | harvestMineralsNear place | harvestGasNear place | groupEdit group edit => rfl

/-- An order that waits addresses one unit by itself, or none, and none while it has to wait. -/
theorem assignments_of_waits (waits : intent.Waits) (situation : Situation) (dispatch : Dispatch) :
    ∃ choice : Option (UnitTag × CommandTarget),
      (intent.assignments situation dispatch).1 = choice.toList ∧
        (intent.mustWait situation dispatch.outbox = true → choice = none) := by
  have hkind := waits.2.1
  unfold assignments
  cases hassignee : intent.assignee with
  | fallback => exact ⟨none, rfl, fun _ => rfl⟩
  | unitType type =>
    refine ⟨(intent.assignment situation dispatch type).1, rfl, ?_⟩
    intro h
    exact assignment_of_mustWait waits h type
  | flags capabilities => simp [hassignee, Assignee.kind] at hkind
  | group name => simp [hassignee, Assignee.kind] at hkind

end Intent

namespace Order

variable {order : Order}

/-- Run for one agent, an order waits just as it does for a rule, unless it edits a group. -/
theorem mustWaitFor_of_waits (waits : order.intent.Waits) {situation : Situation} {outbox : Outbox}
    (hedit : ∀ group edit, order.intent.action ≠ .groupEdit group edit) :
    order.mustWaitFor situation outbox = order.intent.mustWait situation outbox := by
  have hkind := waits.2.2
  unfold mustWaitFor
  cases haction : order.intent.action with
  | exactLocation place => rfl
  | nearLocation place => rfl
  | targetUnit target => rfl
  | groupEdit group edit => exact absurd haction (hedit group edit)
  | simple => simp [haction, Action.kind] at hkind
  | harvestMineralsNear place => simp [haction, Action.kind] at hkind
  | harvestGasNear place => simp [haction, Action.kind] at hkind

/-- Either way to run an order that waits commands one unit, or none, and none while it has to
wait. -/
theorem choices_of_waits (waits : order.intent.Waits) (situation : Situation) (dispatch : Dispatch)
    (agent : Option UnitTag) :
    ∃ choice : Option (UnitTag × CommandTarget),
      (order.choices situation dispatch agent).1 = choice.toList ∧
        (order.intent.mustWait situation dispatch.outbox = true → choice = none) := by
  -- A group edit has no choices, and need not wait either.
  by_cases hedit : ∃ group edit, order.intent.action = .groupEdit group edit
  · obtain ⟨group, edit, haction⟩ := hedit
    rw [choices_of_groupEdit haction]
    exact ⟨none, rfl, fun _ => rfl⟩
  · cases agent with
    | none => exact Intent.assignments_of_waits waits situation dispatch
    | some tag =>
      have hwait : order.mustWaitFor situation dispatch.outbox =
          order.intent.mustWait situation dispatch.outbox :=
        mustWaitFor_of_waits waits fun group edit haction => hedit ⟨group, edit, haction⟩
      by_cases h : order.mustWaitFor situation dispatch.outbox = true
      · refine ⟨none, ?_, fun _ => rfl⟩
        rw [choices, if_pos h]
        rfl
      · refine ⟨(order.intent.target situation dispatch.random).1.map fun target => (tag, target),
          ?_, ?_⟩
        · rw [choices, if_neg h]
          exact Option.toList_map.symm
        · intro hmust
          rw [hwait] at h
          exact absurd hmust h

end Order

/-! ## The number of commands with an ability -/

namespace Outbox

/-- The number of commands with an ability. -/
def usesOf (outbox : Outbox) (ability : Ability) : Nat := outbox.countP (·.ability = ability)

/-- An ability has no uses exactly if it is not used. -/
theorem usesOf_eq_zero_iff {outbox : Outbox} {ability : Ability} :
    outbox.usesOf ability = 0 ↔ outbox.uses ability = false := by
  rw [usesOf, List.countP_eq_zero, uses, List.any_eq_false]

end Outbox

/-- The number of commands with an exclusive ability that a tick may send. -/
def Snapshot.allowance (snapshot : Snapshot) (ability : Ability) : Nat :=
  if snapshot.ownUnits.any (·.isUsing ability) then 0 else 1

/-- Commands of one order use one ability. -/
theorem Order.usesOf_map_command (order : Order) (choices : List (UnitTag × CommandTarget))
    (ability : Ability) : Outbox.usesOf (choices.map order.command) ability =
      if order.intent.ability = ability then choices.length else 0 := by
  rw [Outbox.usesOf, List.countP_map]
  split
  · rename_i h
    rw [List.countP_eq_length]
    intro choice _
    exact decide_eq_true h
  · rename_i h
    rw [List.countP_eq_zero]
    intro choice _ hchoice
    exact h (of_decide_eq_true hchoice)

/-! ## Ticks -/

/-- Whether all stored orders for an ability wait for each other. -/
def OrderBook.Reserves (book : OrderBook) (ability : Ability) : Prop :=
  ∀ order ∈ book.orders.values, order.intent.ability = ability → order.intent.Waits

namespace OrderBook

variable {book : OrderBook} {ability : Ability}

instance : Decidable (book.Reserves ability) :=
  inferInstanceAs (Decidable (∀ order ∈ book.orders.values, _ → _))

/-- Whether an ability is reserved depends on the intents alone. -/
theorem reserves_iff_intent? : book.Reserves ability ↔
    ∀ id intent, book.intent? id = some intent → intent.ability = ability → intent.Waits := by
  constructor
  · intro h id intent hintent
    obtain ⟨order, horder, rfl⟩ := Option.map_eq_some_iff.mp hintent
    exact h order (Table.mem_values.mpr ⟨id, horder⟩)
  · intro h order horder
    obtain ⟨id, horder⟩ := Table.mem_values.mp horder
    exact h id order.intent (by rw [intent?, horder, Option.map_some])

end OrderBook

namespace Session

variable {session : Session} {snapshot : Snapshot} {ability : Ability}

/-- Whether an ability is reserved and the commands with it stay below the allowance. -/
structure ReservedBelow (session : Session) (snapshot : Snapshot) (ability : Ability) : Prop where
  keyed : session.book.Keyed
  reserves : session.book.Reserves ability
  usesOf_le : session.outbox.usesOf ability ≤ snapshot.allowance ability

/-- There is room below the allowance for what a stored order commands. -/
theorem ReservedBelow.usesOf_add_le (h : session.ReservedBelow snapshot ability) {id : OrderId}
    {order : Order} (horder : session.book.orders.get? id = some order) (agent : Option UnitTag) :
    session.outbox.usesOf ability +
        Outbox.usesOf ((order.choices (session.situation snapshot) session.dispatch agent).1.map
          order.command) ability ≤ snapshot.allowance ability := by
  rw [order.usesOf_map_command]
  have hle := h.usesOf_le
  by_cases hability : order.intent.ability = ability
  · have waits := h.reserves order (Table.mem_values.mpr ⟨id, horder⟩) hability
    obtain ⟨choice, hchoice, hnone⟩ := Order.choices_of_waits waits
      (session.situation snapshot) session.dispatch agent
    rw [if_pos hability, hchoice]
    cases hflight : session.outbox.inFlight snapshot ability with
    | true =>
      -- The order has to wait, and adds nothing.
      have hwait : order.intent.mustWait (session.situation snapshot) session.dispatch.outbox =
          true := by
        show (!order.intent.allowsMultiple &&
          session.outbox.inFlight snapshot order.intent.ability) = true
        rw [hability, hflight, Intent.allowsMultiple, waits.1]
        rfl
      rw [hnone hwait]
      exact hle
    | false =>
      -- Nobody uses the ability yet, so there is room for one command.
      rw [Outbox.inFlight, Bool.or_eq_false_iff] at hflight
      have hzero := Outbox.usesOf_eq_zero_iff.mpr hflight.2
      have hone : choice.toList.length ≤ 1 := by cases choice <;> simp
      have hallowance : snapshot.allowance ability = 1 := by
        rw [Snapshot.allowance, hflight.1]
        rfl
      omega
  · rw [if_neg hability]
    omega

/-- A run stays below the allowance. -/
theorem ReservedBelow.run (h : session.ReservedBelow snapshot ability) (id : OrderId)
    (agent : Option UnitTag) :
    (session.run snapshot id agent).2.ReservedBelow snapshot ability := by
  cases horder : session.book.orders.get? id with
  | none =>
    rw [run_of_missing horder]
    exact h
  | some order =>
    have ran := ran_run h.keyed horder snapshot agent
    refine ⟨ran.keyed, ?_, ?_⟩
    · rw [OrderBook.reserves_iff_intent?, ran.intent?, ← OrderBook.reserves_iff_intent?]
      exact h.reserves
    · rw [ran.outbox, Outbox.usesOf, List.countP_append]
      exact h.usesOf_add_le horder agent

/-- A tick stays below the allowance. -/
theorem ReservedBelow.playTick (h : session.ReservedBelow snapshot ability) :
    (session.playTick snapshot).session.ReservedBelow snapshot ability := by
  refine tick_induction (motive := fun before _ after =>
    before.ReservedBelow snapshot ability → after.ReservedBelow snapshot ability) ?_ ?_ ?_ session h
  · intro session roster _ h
    exact ⟨h.keyed, h.reserves, h.usesOf_le⟩
  · intro session id agent h
    exact h.run id agent
  · intro session middle after first second h₁ h₂ h
    exact h₂ (h₁ h)

namespace Reachable

/-- **An exclusive ability is used once.** If all stored orders for an ability are exclusive, for
units of a type or to fall back on, and aimed at a location or at a unit (or edit groups), then a
tick sends at most one command with the ability, and none if one of our units is using it. -/
theorem sent_exclusive (reached : session.Reachable) (reserves : session.book.Reserves ability)
    (snapshot : Snapshot) :
    (session.step snapshot).sent.countP (·.ability = ability) ≤ 1 ∧
      (snapshot.ownUnits.any (·.isUsing ability) = true →
        ∀ command ∈ (session.step snapshot).sent, command.ability ≠ ability) := by
  have h : session.ReservedBelow snapshot ability := by
    refine ⟨reached.linked.keyed, reserves, ?_⟩
    rw [reached.quiet]
    exact Nat.zero_le _
  -- The tick starts with an empty outbox, so all uses in the end are its own.
  have hle : (session.step snapshot).sent.countP (·.ability = ability) ≤
      snapshot.allowance ability := h.playTick.usesOf_le
  constructor
  · have hone : snapshot.allowance ability ≤ 1 := by
      unfold Snapshot.allowance
      split <;> omega
    exact Nat.le_trans hle hone
  · intro hbusy command hcommand hability
    rw [Snapshot.allowance, if_pos hbusy, Nat.le_zero, List.countP_eq_zero] at hle
    exact hle command hcommand (decide_eq_true hability)

end Reachable

end Session

/-- Of two rules for a pylon one is obeyed, and none while a pylon is being built. -/
theorem Session.Reachable.sent_exclusive_rivals :
    SmallGame.rivals.book.Reserves .buildPylon ∧
      (SmallGame.rivals.step SmallGame.snapshot).sent.countP (·.ability = .buildPylon) = 1 ∧
      ∀ command ∈ (SmallGame.rivals.step SmallGame.building).sent, command.ability ≠ .buildPylon := by
  have reached := SmallGame.reachable_rivals
  have reserves : SmallGame.rivals.book.Reserves .buildPylon := by decide
  refine ⟨reserves, Nat.le_antisymm ?_ (by decide), ?_⟩
  · exact (reached.sent_exclusive reserves SmallGame.snapshot).1
  · exact (reached.sent_exclusive reserves SmallGame.building).2 (by decide)

end Skirmish
