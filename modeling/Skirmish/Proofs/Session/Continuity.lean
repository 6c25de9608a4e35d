import Skirmish.Proofs.Session.CrossReference

/-!
# What lasts from event to event

Two things outlive almost every event. A session keeps its strategy once it has one
(`strategy_after`), and an agent that is busy stays busy until it is told that it has nothing to do
or is destroyed (`busy_after`). `Event.Frees` names these two events for a tag.

`Session.Continues` says both of a change to a session. It composes, so each callback has a short
proof from the changes that it is made of; the events that free an agent are looked at apart.
-/

namespace Skirmish

/-! ## Busy agents -/

namespace Roster

variable {roster after : Roster} {tag other : UnitTag}

/-- Whether an agent is on the roster and busy. -/
def Busy (roster : Roster) (tag : UnitTag) : Prop :=
  ∃ duty, roster.duty? tag = some duty ∧ duty.isIdle = false

/-- A busy agent is one on the roster that is not idle. -/
theorem busy_iff : roster.Busy tag ↔
    ∃ agent, roster.get? tag = some agent ∧ agent.isIdle = false := by
  constructor
  · rintro ⟨duty, hduty, hidle⟩
    obtain ⟨agent, hagent, rfl⟩ := Option.map_eq_some_iff.mp hduty
    exact ⟨agent, hagent, hidle⟩
  · rintro ⟨agent, hagent, hidle⟩
    exact ⟨agent.duty, duty?_of_get? hagent, hidle⟩

namespace Busy

/-- A busy agent is on the roster. -/
theorem contains (busy : roster.Busy tag) : roster.contains tag = true := by
  obtain ⟨duty, hduty, -⟩ := busy
  rw [contains_eq_duty?, hduty, Option.isSome_some]

/-- Whether an agent is busy is seen from its duty. -/
theorem of_duty?_eq (busy : roster.Busy tag) (h : after.duty? tag = roster.duty? tag) :
    after.Busy tag := by
  obtain ⟨duty, hduty, hidle⟩ := busy
  exact ⟨duty, h.trans hduty, hidle⟩

/-- A new agent takes nobody's place. -/
theorem enlist (busy : roster.Busy tag) (new : UnitTag) (agent : Agent) :
    (roster.enlist new agent).Busy tag := by
  unfold Roster.enlist
  split
  · exact busy
  · rename_i hnew
    have hne : tag ≠ new := by
      rintro rfl
      exact hnew busy.contains
    exact busy.of_duty?_eq (by rw [duty?_insert, if_neg hne])

/-- A change that keeps busy agents busy, whoever is changed. -/
theorem modify (busy : roster.Busy tag) (changed : UnitTag) {change : Agent → Agent}
    (h : ∀ agent, agent.isIdle = false → (change agent).isIdle = false) :
    Busy (Table.modify roster changed change) tag := by
  rw [busy_iff] at busy ⊢
  obtain ⟨agent, hagent, hidle⟩ := busy
  rw [Table.get?_modify]
  split
  · rename_i htag
    exact ⟨change agent, by rw [hagent, Option.map_some], h agent hidle⟩
  · exact ⟨agent, hagent, hidle⟩

end Busy

end Roster

/-! ## Changes that free nobody -/

namespace Session

/-- A change that keeps a strategy once there is one, and leaves everybody busy who is. -/
structure Continues (before after : Session) : Prop where
  strategy : ∀ rules, before.strategy = some rules → after.strategy = some rules
  busy : ∀ tag, before.roster.Busy tag → after.roster.Busy tag

namespace Continues

variable {before middle after session : Session}

theorem refl (session : Session) : Continues session session :=
  ⟨fun _ kept => kept, fun _ busy => busy⟩

theorem trans (h₁ : Continues before middle) (h₂ : Continues middle after) :
    Continues before after :=
  ⟨fun rules kept => h₂.strategy rules (h₁.strategy rules kept),
    fun tag busy => h₂.busy tag (h₁.busy tag busy)⟩

/-- A change to neither the strategy nor the roster. -/
theorem of_eq (strategy : after.strategy = before.strategy) (roster : after.roster = before.roster) :
    Continues before after :=
  ⟨fun _ kept => strategy.trans kept, fun tag busy => by rw [roster]; exact busy⟩

/-! ## Ticks -/

/-- Running an order keeps everyone busy who was. -/
theorem run (session : Session) (snapshot : Snapshot) (id : OrderId) (agent : Option UnitTag) :
    Continues session (session.run snapshot id agent).2 := by
  cases hid : session.book.orders.get? id with
  | none =>
    rw [run_of_missing hid]
    exact refl session
  | some order =>
    rw [run_of_stored hid]
    refine ⟨fun _ kept => kept, fun tag busy => ?_⟩
    obtain ⟨duty, hduty, hidle⟩ := busy
    have hafter := (order.performed_perform (session.situation snapshot) session.dispatch
      agent).duty? tag
    -- Whoever is commanded is busy with the order now.
    split at hafter
    · exact ⟨duty.takeUp order, hafter.trans (by rw [dispatch, hduty, Option.map_some]), rfl⟩
    · exact ⟨duty, hafter.trans hduty, hidle⟩

/-- A tick keeps everyone busy who was. -/
theorem playTick (session : Session) (snapshot : Snapshot) :
    Continues session (session.playTick snapshot).session := by
  refine tick_induction (motive := fun before _ after => Continues before after) ?_ ?_ ?_ session
  · intro session roster h
    exact ⟨fun _ kept => kept, fun tag busy => busy.of_duty?_eq (congrFun h tag)⟩
  · intro session id agent
    exact run session snapshot id agent
  · intro session middle after _ _ h₁ h₂
    exact h₁.trans h₂

/-! ## Callbacks for single units -/

/-- Enlisting an agent whose tag may be known keeps everyone busy who was. -/
theorem enlist (session : Session) (tag : UnitTag) (agent : Agent) :
    Continues session (session.enlist tag agent) :=
  ⟨fun _ kept => kept, fun _ busy => busy.enlist tag agent⟩

/-- Changing an agent keeps everyone busy if the change does. -/
theorem modifyAgent (session : Session) (tag : UnitTag) {change : Agent → Agent}
    (h : ∀ agent, agent.isIdle = false → (change agent).isIdle = false) :
    Continues session (session.modifyAgent tag change) :=
  ⟨fun _ kept => kept, fun _ busy => busy.modify tag h⟩

theorem recruit (session : Session) (unit : UnitView) (agent : Agent) (place : Place) :
    Continues session (session.recruit unit agent place) := by
  unfold Session.recruit
  split
  · exact ⟨fun _ kept => kept, fun _ busy => busy.enlist unit.tag _⟩
  · exact enlist session unit.tag agent

theorem welcomeAll (session : Session) (units : List UnitView) :
    Continues session (units.foldl welcome session) := by
  induction units generalizing session with
  | nil => exact refl session
  | cons unit units ih =>
    refine trans ?_ (ih _)
    unfold welcome
    split
    · exact refl session
    · exact recruit session unit _ _

theorem start (session : Session) (snapshot : Snapshot) :
    Continues session (session.start snapshot).session :=
  (welcomeAll session snapshot.ownUnits).trans (of_eq rfl rfl)

theorem releaseGasBuilder (session : Session) (around : Point) :
    Continues session (session.releaseGasBuilder around) := by
  unfold Session.releaseGasBuilder
  split
  · exact refl session
  · rename_i tag _
    have hlose : Continues session (session.modifyAgent tag (·.lose .placingGas)) :=
      modifyAgent session tag fun _ hidle => hidle
    exact hlose.trans (of_eq rfl rfl)

theorem register (session : Session) (unit : UnitView) :
    Continues session (session.register unit) := by
  unfold Session.register
  have hpost : ∀ home, Continues session (session.post unit.category home).2 := by
    intro home
    unfold Session.post
    split <;> exact of_eq rfl rfl
  exact (hpost _).trans (recruit _ unit _ _)

theorem created (session : Session) (unit : UnitView) :
    Continues session (session.created unit).session := by
  unfold Session.created
  split
  · exact refl session
  · refine (trans ?_ (register _ unit)).trans (of_eq rfl rfl)
    split
    · exact releaseGasBuilder session unit.position
    · exact refl session

/-- Sending a worker to gas keeps everyone busy who was. -/
theorem sendGasWorker {site : UnitView} (h : session.sendGasWorker site = some after) :
    Continues session after := by
  obtain ⟨tag, agent, order, -, -, -, hroster, -⟩ := sendGasWorker_eq_some h
  constructor
  · unfold Session.sendGasWorker at h
    simp only [unassign_eq_unassignAll] at h
    split at h
    · cases h
    · obtain rfl := Option.some.inj h
      exact fun _ kept => kept
  · intro tag busy
    rw [hroster]
    exact busy.modify _ fun _ _ => rfl

theorem sendGasWorkers (session : Session) (site : UnitView) (count : Nat) :
    Continues session (Session.sendGasWorkers site count session) := by
  induction count generalizing session with
  | zero => exact refl session
  | succ count ih =>
    unfold Session.sendGasWorkers
    split
    · exact refl session
    · rename_i after hsend
      exact (sendGasWorker hsend).trans (ih after)

theorem completed (session : Session) (unit : UnitView) :
    Continues session (session.completed unit).session := by
  obtain ⟨layout, ⟨-, -, hcompleted⟩ | ⟨roster, hroster, crewed, hcrewed, hcompleted⟩⟩ :=
    session.completed_cases unit
  · rw [hcompleted]
    exact of_eq rfl rfl
  · have hdefended : Continues session { session with layout, roster } := by
      rcases hroster with rfl | rfl
      · exact of_eq rfl rfl
      · have hgained : Continues session (session.modifyAgent unit.tag (·.gain .defense)) :=
          modifyAgent session unit.tag fun _ hidle => hidle
        exact hgained.trans (of_eq rfl rfl)
    rw [hcompleted, hcrewed]
    refine hdefended.trans ?_
    split
    · exact (sendGasWorkers _ unit _).trans (of_eq rfl rfl)
    · exact of_eq rfl rfl

theorem damaged (session : Session) (snapshot : Snapshot) (unit : UnitView) :
    Continues session (session.damaged snapshot unit).session := by
  unfold Session.damaged
  split <;> exact of_eq rfl rfl

/-! ## Strategies -/

theorem install (session : Session) (rules : RuleSet) :
    Continues session (session.install rules).2 := by
  unfold Session.install
  cases hstrategy : session.strategy with
  | some kept => exact refl session
  | none =>
    refine ⟨fun kept hkept => ?_, fun _ busy => busy⟩
    rw [hstrategy] at hkept
    cases hkept

/-- Loading a strategy keeps everyone busy who was. -/
theorem loadStrategy (session : Session) (text : String) :
    Continues session (session.loadStrategy text).2 := by
  unfold Session.loadStrategy
  split
  · exact refl session
  · split
    · exact of_eq rfl rfl
    · rename_i rules book next _
      exact (of_eq rfl rfl : Continues session { session with book, nextId := next }).trans
        (install _ rules)

theorem loadOpening (session : Session) : Continues session session.loadOpening.2 := by
  unfold Session.loadOpening
  generalize Strategy.Opening.build session.book session.nextId = opening
  obtain ⟨rules, book, next⟩ := opening
  exact (of_eq rfl rfl : Continues session { session with book, nextId := next }).trans
    (install _ rules)

end Continues

end Session

/-! ## Events that free an agent -/

/-- Whether an event takes an agent off its order: the agent is told that it has nothing to do, or it
is destroyed. -/
def Event.Frees (tag : UnitTag) : Event → Prop
  | .becameIdle idle => idle = tag
  | .destroyed unit => unit.isOwn = true ∧ unit.tag = tag
  | _ => False

namespace Session

variable {session : Session} {tag : UnitTag} {rules : RuleSet}

/-- An agent that becomes idle is the only one that does. -/
theorem busy_becameIdle (busy : session.roster.Busy tag) {idle : UnitTag} (h : idle ≠ tag) :
    (session.becameIdle idle).session.roster.Busy tag := by
  unfold becameIdle
  split
  · exact busy
  · show Roster.Busy (Session.unassign _ _ _).roster tag
    rw [unassign_eq_unassignAll]
    exact busy.of_duty?_eq (by rw [modifyAgent, Roster.duty?_modify, if_neg h.symm])

/-- A unit that was destroyed takes no other agent off the roster. -/
theorem busy_destroyed (busy : session.roster.Busy tag) {unit : UnitView}
    (h : ¬ (unit.isOwn = true ∧ unit.tag = tag)) :
    (session.destroyed unit).session.roster.Busy tag := by
  unfold destroyed
  split
  · exact busy
  · rename_i hown
    split
    · exact busy
    · have hne : tag ≠ unit.tag := by
        rintro rfl
        exact h ⟨by simpa using hown, rfl⟩
      exact busy.of_duty?_eq (by rw [silent, Roster.duty?_erase, if_neg hne])

/-- An agent that becomes idle leaves the rules alone. -/
theorem strategy_becameIdle (session : Session) (idle : UnitTag) :
    (session.becameIdle idle).session.strategy = session.strategy := by
  unfold becameIdle
  split
  · rfl
  · rw [unassign_eq_unassignAll]
    rfl

/-- A unit that was destroyed leaves the rules alone. -/
theorem strategy_destroyed (session : Session) (unit : UnitView) :
    (session.destroyed unit).session.strategy = session.strategy := by
  unfold destroyed
  split
  · rfl
  · split <;> rfl

/-- All other events leave everybody busy who is, and keep the strategy. -/
theorem continues_react (session : Session) (event : Event) :
    Continues session (session.react event) ∨
      (∃ tag, event = .becameIdle tag) ∨ ∃ unit, event = .destroyed unit := by
  -- Only an agent that becomes idle or is lost is freed.
  cases event with
  | start snapshot => exact .inl (.start session snapshot)
  | tick snapshot => exact .inl ((Continues.playTick session snapshot).trans (.of_eq rfl rfl))
  | created unit => exact .inl (.created session unit)
  | completed unit => exact .inl (.completed session unit)
  | damaged snapshot unit => exact .inl (.damaged session snapshot unit)
  | becameIdle tag => exact .inr (.inl ⟨tag, rfl⟩)
  | destroyed unit => exact .inr (.inr ⟨unit, rfl⟩)
  | install rules => exact .inl (.install session rules)
  | loadStrategy text => exact .inl (.loadStrategy session text)
  | loadOpening => exact .inl (.loadOpening session)
  | storeLocation name location => exact .inl (.of_eq rfl rfl)
  | storeUnitType name unitType => exact .inl (.of_eq rfl rfl)
  | orderMade => exact .inl (.of_eq rfl rfl)
  | storeOrder id intent => exact .inl (.of_eq rfl rfl)
  | attachBundle outer id intent =>
    refine .inl ?_
    simp only [react]
    split <;> exact .of_eq rfl rfl

/-! ## Continuations of a run -/

/-- A busy agent stays busy in every event that does not free it. -/
theorem busy_react (busy : session.roster.Busy tag) {event : Event} (h : ¬ event.Frees tag) :
    (session.react event).roster.Busy tag := by
  rcases session.continues_react event with continues | ⟨idle, rfl⟩ | ⟨unit, rfl⟩
  · exact continues.busy tag busy
  · exact busy_becameIdle busy h
  · exact busy_destroyed busy h

/-- **A busy agent stays busy until it is told that it has nothing to do, or is destroyed.** -/
theorem busy_after (busy : session.roster.Busy tag) {events : List Event}
    (h : ∀ event ∈ events, ¬ event.Frees tag) : (session.after events).roster.Busy tag := by
  induction events generalizing session with
  | nil => exact busy
  | cons event events ih =>
    rw [List.forall_mem_cons] at h
    exact ih (busy_react busy h.1) h.2

/-- A session keeps its strategy in every event. -/
theorem strategy_react (h : session.strategy = some rules) (event : Event) :
    (session.react event).strategy = some rules := by
  rcases session.continues_react event with continues | ⟨idle, rfl⟩ | ⟨unit, rfl⟩
  · exact continues.strategy rules h
  · exact (session.strategy_becameIdle idle).trans h
  · exact (session.strategy_destroyed unit).trans h

/-- **A session that has a strategy keeps it.** -/
theorem strategy_after (h : session.strategy = some rules) (events : List Event) :
    (session.after events).strategy = some rules :=
  after_invariant (P := fun session => session.strategy = some rules)
    (fun _ event h => strategy_react h event) events h

end Session

end Skirmish
