import Skirmish.Proofs.Session.Linked
import Skirmish.Proofs.Session.Reachable

/-!
# Cross references never dangle

`lists_iff_current` says of every reachable session that an order lists an agent if and only if the
agent is on the roster and carries the order out, and that an agent is idle if and only if it
carries nothing out. Every event keeps roster and book in agreement (`Linked.react`); here the
callbacks for single units and the loading of strategies are added to the ticks.
-/

namespace Skirmish

/-- An agent that has been sent to gather gas. -/
def Agent.gatherGas (agent : Agent) (order : OrderId) : Agent :=
  (((agent.lose .mineralGatherer).gain .gasGatherer).fallBackOn order).workOn order

namespace Session

variable {session : Session}

/-- To take an agent off an order, if there is one, is to take it off a list of at most one. -/
theorem unassign_eq_unassignAll (session : Session) (order : Option OrderId)
    (tag : UnitTag) :
    session.unassign order tag =
      { session with
        book := session.book.unassignAll (order.toList.map fun id => (id, tag)) } := by
  cases order <;> rfl

/-- What sending an agent to a gas structure does to roster and book. -/
theorem sendGasWorker_eq_some {site : UnitView} {after : Session}
    (h : session.sendGasWorker site = some after) :
    ∃ tag agent order, session.roster.get? tag = some agent ∧ order.id = session.nextId ∧
      order.assigned = .empty ∧
      after.roster = session.roster.modify tag (·.gatherGas order.id) ∧
      after.book = ((session.book.store order).unassignAll
        (agent.current.toList.map fun id => (id, tag))).change order.id (·.assign tag) := by
  unfold sendGasWorker at h
  simp only [unassign_eq_unassignAll] at h
  split at h
  · cases h
  · rename_i tag hnearest
    obtain ⟨agent, hagent, -⟩ := Roster.get?_of_nearest hnearest
    rw [hagent, Option.bind_some] at h
    obtain rfl := Option.some.inj h
    exact ⟨tag, agent, .issue session.nextId _, hagent, rfl, rfl, rfl, rfl⟩

end Session

/-! ## Strategies -/

namespace Strategy

variable {defaultRadius : Number.Single}

/-- The orders of a chain have nobody yet. -/
theorem assigned_of_mem_buildChain {rule : String} {entries : List OrderEntry} {next free : OrderId}
    {chain : List Order} (h : buildChain rule defaultRadius entries next = (.ok chain, free)) :
    ∀ order ∈ chain, order.assigned = .empty := by
  induction entries generalizing next chain free with
  | nil =>
    obtain ⟨h, -⟩ := Prod.mk.inj h
    obtain rfl := Except.ok.inj h
    intro order horder
    cases horder
  | cons entry entries ih =>
    unfold buildChain at h
    split at h
    · cases h
    · split at h
      · cases h
      · rename_i inner _ hinner
        obtain ⟨h, -⟩ := Prod.mk.inj h
        obtain rfl := Except.ok.inj h
        intro order horder
        rcases List.mem_cons.mp horder with rfl | horder
        · rfl
        · exact ih hinner order horder

/-- The orders of a rule have nobody yet. -/
theorem assigned_of_mem_build {entry : RuleEntry} {next free : OrderId} {rule : Rule}
    {orders : List Order} (h : entry.build defaultRadius next = (.ok (rule, orders), free)) :
    ∀ order ∈ orders, order.assigned = .empty := by
  unfold RuleEntry.build at h
  split at h
  · cases h
  · rename_i chain _ hchain
    split at h
    · cases h
    · obtain ⟨h, -⟩ := Prod.mk.inj h
      obtain ⟨-, rfl⟩ := Prod.mk.inj (Except.ok.inj h)
      intro order horder
      exact assigned_of_mem_buildChain hchain order (List.mem_reverse.mp horder)

/-- The orders of a file have nobody yet. -/
theorem assigned_of_mem_buildRules {entries : List RuleEntry} {next free : OrderId}
    {rules : List Rule} {orders : List Order}
    (h : buildRules defaultRadius entries next = (.ok (rules, orders), free)) :
    ∀ order ∈ orders, order.assigned = .empty := by
  induction entries generalizing next rules orders free with
  | nil =>
    obtain ⟨h, -⟩ := Prod.mk.inj h
    obtain ⟨-, rfl⟩ := Prod.mk.inj (Except.ok.inj h)
    intro order horder
    cases horder
  | cons entry entries ih =>
    unfold buildRules at h
    split at h
    · cases h
    · rename_i hentry
      split at h
      · cases h
      · rename_i hothers
        obtain ⟨h, -⟩ := Prod.mk.inj h
        obtain ⟨-, rfl⟩ := Prod.mk.inj (Except.ok.inj h)
        intro order horder
        -- An order of the file is one of this rule or one of the others.
        rcases List.mem_append.mp horder with horder | horder
        · exact assigned_of_mem_build hentry order horder
        · exact ih hothers order horder

/-- The orders of the opening have nobody yet. -/
theorem assigned_of_mem_opening (first : OrderId) :
    ∀ order ∈ Opening.orders first, order.assigned = .empty := by
  simp [Opening.orders, Order.issue]

end Strategy

namespace Linked

variable {roster : Roster} {book : OrderBook}

/-- Storing several orders that nobody is carrying out. -/
theorem storeAll (linked : Linked roster book) {orders : List Order}
    (unassigned : ∀ order ∈ orders, order.assigned = .empty) :
    Linked roster (Strategy.storeAll book orders) := by
  induction orders generalizing book with
  | nil => exact linked
  | cons order orders ih =>
    rw [List.forall_mem_cons] at unassigned
    exact ih (linked.store unassigned.1) unassigned.2

variable {session : Session}

theorem install (linked : Linked session.roster session.book) (rules : RuleSet) :
    Linked (session.install rules).2.roster (session.install rules).2.book := by
  unfold Session.install
  split
  · exact linked
  · exact linked

/-- Loading a strategy keeps roster and book linked. -/
theorem loadStrategy (linked : Linked session.roster session.book) (text : String) :
    Linked (session.loadStrategy text).2.roster (session.loadStrategy text).2.book := by
  unfold Session.loadStrategy
  split
  · exact linked
  · split
    · exact linked
    · rename_i rules book next hload
      -- The book is linked before the rules are installed, which do not concern it.
      refine @install { session with book, nextId := next } ?_ rules
      unfold Strategy.load at hload
      split at hload
      · cases hload
      · unfold Strategy.File.build at hload
        split at hload
        · cases hload
        · rename_i hrules
          obtain ⟨h, -⟩ := Prod.mk.inj hload
          obtain ⟨-, rfl⟩ := Prod.mk.inj (Except.ok.inj h)
          exact linked.storeAll (Strategy.assigned_of_mem_buildRules hrules)

theorem loadOpening (linked : Linked session.roster session.book) :
    Linked session.loadOpening.2.roster session.loadOpening.2.book := by
  have hstored := linked.storeAll (Strategy.assigned_of_mem_opening session.nextId)
  unfold Session.loadOpening Strategy.Opening.build
  generalize Strategy.Opening.idAt session.nextId Strategy.Opening.orderCount = next
  generalize Strategy.storeAll session.book (Strategy.Opening.orders session.nextId) = book at *
  exact @install { session with book, nextId := next } hstored _

/-! ## New agents -/

/-- Recruiting an idle agent without an order keeps roster and book linked. -/
theorem recruit (linked : Linked session.roster session.book) (unit : UnitView) {agent : Agent}
    (place : Place) (current : agent.current = none) (isIdle : agent.isIdle = true) :
    Linked (session.recruit unit agent place).roster (session.recruit unit agent place).book := by
  unfold Session.recruit
  split
  · exact (linked.store rfl).enlist unit.tag current isIdle
  · exact linked.enlist unit.tag current isIdle

theorem current_ofUnit (unit : UnitView) : (Agent.ofUnit unit).current = none := by
  unfold Agent.ofUnit
  cases unit.isFlying <;> rfl

theorem isIdle_ofUnit (unit : UnitView) : (Agent.ofUnit unit).isIdle = true := by
  unfold Agent.ofUnit
  cases unit.isFlying <;> rfl

theorem welcome (linked : Linked session.roster session.book) (unit : UnitView) :
    Linked (session.welcome unit).roster (session.welcome unit).book := by
  unfold Session.welcome
  split
  · exact linked
  · exact linked.recruit unit _ (current_ofUnit unit) (isIdle_ofUnit unit)

theorem welcomeAll (linked : Linked session.roster session.book) (units : List UnitView) :
    Linked (units.foldl Session.welcome session).roster
      (units.foldl Session.welcome session).book := by
  induction units generalizing session with
  | nil => exact linked
  | cons unit units ih => exact ih (linked.welcome unit)

/-- Releasing a gas builder keeps roster and book linked. -/
theorem releaseGasBuilder (linked : Linked session.roster session.book) (around : Point) :
    Linked (session.releaseGasBuilder around).roster (session.releaseGasBuilder around).book := by
  unfold Session.releaseGasBuilder
  split
  · exact linked
  · rename_i tag _
    exact linked.modify tag (·.lose .placingGas) (fun _ => rfl) (fun _ => rfl)

theorem register (linked : Linked session.roster session.book) (unit : UnitView) :
    Linked (session.register unit).roster (session.register unit).book := by
  unfold Session.register
  -- Where a unit is posted changes neither the roster nor the book.
  have hpost : ∀ home, Linked (session.post unit.category home).2.roster
      (session.post unit.category home).2.book := by
    intro home
    unfold Session.post
    split <;> exact linked
  exact (hpost _).recruit unit _ (current_ofUnit unit) (isIdle_ofUnit unit)

theorem created (linked : Linked session.roster session.book) (unit : UnitView) :
    Linked (session.created unit).session.roster (session.created unit).session.book := by
  unfold Session.created
  split
  · exact linked
  · refine register ?_ unit
    split
    · exact linked.releaseGasBuilder unit.position
    · exact linked

/-! ## Agents that change or leave their order -/

/-- An agent that rests and is taken off its order keeps roster and book linked. -/
theorem rest (linked : Linked session.roster session.book) {tag : UnitTag} {agent : Agent}
    (hagent : session.roster.get? tag = some agent) :
    Linked (session.roster.modify tag (·.rest))
      (session.book.unassignAll (agent.current.toList.map fun id => (id, tag))) := by
  refine linked.reassign (linked.keyed.unassignAll _) hagent ?_ ?_
  · exact ⟨fun _ => rfl, fun _ => rfl⟩
  · intro id t
    rw [OrderBook.lists_unassignAll, List.mem_map]
    have hrest : agent.rest.current = none := rfl
    simp [hrest, and_comm, eq_comm]

/-- An agent that becomes idle keeps roster and book linked. -/
theorem becameIdle (linked : Linked session.roster session.book) (tag : UnitTag) :
    Linked (session.becameIdle tag).session.roster (session.becameIdle tag).session.book := by
  unfold Session.becameIdle
  split
  · exact linked
  · rename_i agent hagent
    show Linked (Session.unassign _ agent.current tag).roster
      (Session.unassign _ agent.current tag).book
    rw [Session.unassign_eq_unassignAll]
    exact linked.rest hagent

/-- Sending a worker to gas keeps roster and book linked. -/
theorem sendGasWorker (linked : Linked session.roster session.book) {site : UnitView}
    {after : Session} (h : session.sendGasWorker site = some after) :
    Linked after.roster after.book := by
  obtain ⟨tag, agent, order, hagent, hid, hunassigned, hroster, hbook⟩ :=
    Session.sendGasWorker_eq_some h
  -- The new order is stored, whatever was stored under its id before.
  have hstored := linked.store hunassigned
  have hcontains : ((session.book.store order).unassignAll
      (agent.current.toList.map fun id => (id, tag))).orders.contains order.id = true := by
    rw [OrderBook.contains_eq_intent?, OrderBook.intent?_unassignAll,
      ← OrderBook.contains_eq_intent?, OrderBook.contains_store]
  rw [hroster, hbook]
  refine hstored.reassign ?_ hagent ?_ ?_
  · exact (hstored.keyed.unassignAll _).change fun _ _ => rfl
  · constructor <;> intro h <;> cases h
  · intro id t
    rw [OrderBook.lists_assign hcontains, OrderBook.lists_unassignAll, List.mem_map]
    have hcurrent : (agent.gatherGas order.id).current = some order.id := rfl
    simp [hcurrent, and_comm, eq_comm]

theorem sendGasWorkers (linked : Linked session.roster session.book) (site : UnitView)
    (count : Nat) : Linked (Session.sendGasWorkers site count session).roster
      (Session.sendGasWorkers site count session).book := by
  induction count generalizing session with
  | zero => exact linked
  | succ count ih =>
    unfold Session.sendGasWorkers
    split
    · exact linked
    · rename_i hsend
      exact ih (linked.sendGasWorker hsend)

theorem completed (linked : Linked session.roster session.book) (unit : UnitView) :
    Linked (session.completed unit).session.roster (session.completed unit).session.book := by
  obtain ⟨layout, ⟨-, -, hcompleted⟩ | ⟨roster, hroster, crewed, hcrewed, hcompleted⟩⟩ :=
    session.completed_cases unit
  · rw [hcompleted]
    exact linked
  · have hdefended : Linked roster session.book := by
      rcases hroster with rfl | rfl
      · exact linked
      · exact linked.modify unit.tag (·.gain .defense) (fun _ => rfl) (fun _ => rfl)
    rw [hcompleted, hcrewed]
    split
    · exact hdefended.sendGasWorkers unit _
    · exact hdefended

theorem damaged (linked : Linked session.roster session.book) (snapshot : Snapshot)
    (unit : UnitView) : Linked (session.damaged snapshot unit).session.roster
      (session.damaged snapshot unit).session.book := by
  unfold Session.damaged
  split
  · exact linked
  · exact linked

/-- A unit that was destroyed keeps roster and book linked. -/
theorem destroyed (linked : Linked session.roster session.book) (unit : UnitView) :
    Linked (session.destroyed unit).session.roster (session.destroyed unit).session.book := by
  unfold Session.destroyed
  split
  · exact linked
  · split
    · exact linked
    · exact linked.erase unit.tag

/-! ## All events -/

/-- **Every event keeps roster and book in agreement.** -/
theorem react (linked : Linked session.roster session.book) (event : Event) :
    Linked (session.react event).roster (session.react event).book := by
  cases event with
  | start snapshot => exact linked.welcomeAll snapshot.ownUnits
  | tick snapshot => exact linked.step snapshot
  | created unit => exact linked.created unit
  | completed unit => exact linked.completed unit
  | damaged snapshot unit => exact linked.damaged snapshot unit
  | becameIdle tag => exact linked.becameIdle tag
  | destroyed unit => exact linked.destroyed unit
  | install rules => exact linked.install rules
  | loadStrategy text => exact linked.loadStrategy text
  | loadOpening => exact linked.loadOpening
  | storeLocation name location => exact linked
  | storeUnitType name unitType => exact linked
  | orderMade => exact linked
  | storeOrder id intent => exact linked.store rfl
  | attachBundle outer id intent =>
    simp only [Session.react]
    split
    · rename_i book hbook
      -- A bundle changes a link and adds an order without agents.
      obtain ⟨hlists, hkeyed⟩ := OrderBook.attachBundle_eq_ok rfl hbook
      exact linked.of_lists_iff (hkeyed linked.keyed) hlists
    · exact linked

end Linked

namespace Session.Reachable

variable {session : Session}

/-- Roster and book of every reachable session are linked. -/
theorem linked (reached : session.Reachable) : Linked session.roster session.book := by
  refine reached.invariant (P := fun session => Linked session.roster session.book) ?_ ?_
  · intro config layout
    exact Linked.empty
  · intro session event linked
    exact linked.react event

/-- **Cross references never dangle.** In every reachable session, an order is stored and lists a tag
if and only if the tag is on the roster and the order is its current one, and an agent is idle if
and only if it has no current order. -/
theorem lists_iff_current (reached : session.Reachable) :
    (∀ id tag, (∃ order, session.book.orders.get? id = some order ∧ tag ∈ order.assigned) ↔
      ∃ agent, session.roster.get? tag = some agent ∧ agent.current = some id) ∧
    ∀ tag agent, session.roster.get? tag = some agent →
      (agent.isIdle = true ↔ agent.current = none) := by
  have linked := reached.linked
  constructor
  · intro id tag
    have h := linked.lists_iff id tag
    rw [Roster.currentOf, Option.bind_eq_some_iff] at h
    exact h
  · intro tag agent hagent
    exact linked.idle_iff tag agent.duty (Roster.duty?_of_get? hagent)

/-- After the first tick of the small game, the order to gather minerals lists the worker. -/
theorem lists_iff_current_smallGame : SmallGame.session.Reachable ∧
    ∃ order, SmallGame.session.book.orders.get? ⟨1⟩ = some order ∧ ⟨7⟩ ∈ order.assigned := by
  refine ⟨SmallGame.reachable_session, ?_⟩
  rw [(lists_iff_current SmallGame.reachable_session).1]
  exact Option.bind_eq_some_iff.mp (by decide)

end Session.Reachable

end Skirmish
