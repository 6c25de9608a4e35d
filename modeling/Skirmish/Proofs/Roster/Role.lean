import Skirmish.Proofs.Order.Book
import Skirmish.Proofs.Order.OneAgent
import Skirmish.Session.Events

/-!
# The roles of agents

What an agent is for is said three times: by its category, which it has for life, by what it can do,
and by the order that it falls back on. `Agent.HasRole` says that the three agree, given the stored
orders: workers gather minerals or gas and fall back on an order to do so, and all others do neither.

Whether they agree depends on `Agent.role` alone, and little that happens to an agent shows there.
-/

namespace Skirmish

namespace Agent

/-! ## Capabilities that come and go -/

/-- An agent that gains a capability can do that and what it could do before. -/
@[simp]
theorem can_gain (agent : Agent) (capability other : Capability) :
    (agent.gain capability).can other = (decide (other = capability) || agent.can other) := by
  rw [Bool.eq_iff_iff]
  simp [can, gain]

@[simp]
theorem can_lose (agent : Agent) (capability other : Capability) :
    (agent.lose capability).can other = (decide (other ≠ capability) && agent.can other) := by
  rw [Bool.eq_iff_iff]
  simp [can, lose, and_comm]

@[simp]
theorem can_workOn (agent : Agent) (order : OrderId) (capability : Capability) :
    (agent.workOn order).can capability = agent.can capability := rfl

@[simp]
theorem can_fallBackOn (agent : Agent) (order : OrderId) (capability : Capability) :
    (agent.fallBackOn order).can capability = agent.can capability := rfl

/-- An agent can do what its category can, and perhaps fly. -/
theorem can_ofUnit (unit : UnitView) {capability : Capability} (h : capability ≠ .flying) :
    (Agent.ofUnit unit).can capability = unit.category.capabilities.contains capability := by
  unfold Agent.ofUnit
  cases unit.isFlying
  · rfl
  · simp only [if_true, can_gain, decide_eq_false h, Bool.false_or]
    rfl

end Agent

/-! ## Roles -/

/-- What an agent is for. -/
structure Role where
  category : Category
  fallback : Option OrderId
  isWorker : Bool
  gathersMinerals : Bool
  gathersGas : Bool

/-- Whether all stored orders keep their tasks: who carries them out and what is to be done. -/
def OrderBook.KeepsTasks (before after : OrderBook) : Prop :=
  ∀ id intent, before.intent? id = some intent → ∃ kept, after.intent? id = some kept ∧
    kept.assignee = intent.assignee ∧ kept.action = intent.action

namespace Agent

/-- The role of an agent. -/
def role (agent : Agent) : Role where
  category := agent.category
  fallback := agent.fallback
  isWorker := agent.can .worker
  gathersMinerals := agent.can .mineralGatherer
  gathersGas := agent.can .gasGatherer

/-- Another capability makes no difference to the role. -/
theorem role_gain (agent : Agent) {capability : Capability}
    (h : capability ∉ [.worker, .mineralGatherer, .gasGatherer]) :
    (agent.gain capability).role = agent.role := by
  simp only [List.mem_cons, List.not_mem_nil, or_false, not_or, ← ne_eq] at h
  obtain ⟨hworker, hminerals, hgas⟩ := h
  simp only [role, can_gain, decide_eq_false hworker.symm, decide_eq_false hminerals.symm,
    decide_eq_false hgas.symm, Bool.false_or]
  rfl

theorem role_lose (agent : Agent) {capability : Capability}
    (h : capability ∉ [.worker, .mineralGatherer, .gasGatherer]) :
    (agent.lose capability).role = agent.role := by
  simp only [List.mem_cons, List.not_mem_nil, or_false, not_or, ← ne_eq] at h
  obtain ⟨hworker, hminerals, hgas⟩ := h
  simp only [role, can_lose, decide_eq_true hworker.symm, decide_eq_true hminerals.symm,
    decide_eq_true hgas.symm, Bool.true_and]
  rfl

theorem role_edit (agent : Agent) (group : String) (edit : GroupEdit) :
    (agent.edit group edit).role = agent.role := by
  cases edit <;> rfl

/-- To take up an order leaves the role alone. -/
theorem role_takenUpBy (order : Order) (agent : Agent) :
    (order.takenUpBy agent).role = agent.role :=
  Order.view_takenUpBy (fun _ _ => rfl) (fun _ _ => rfl)
    (fun agent => role_gain agent (by decide)) order agent

/-- Whether category, capabilities and fallback of an agent agree. -/
structure HasRole (agent : Agent) (book : OrderBook) : Prop where
  worker_iff : agent.can .worker = true ↔ agent.category = .worker
  /-- A worker gathers either minerals or gas. -/
  gathers_one : agent.category = .worker → agent.can .gasGatherer = !agent.can .mineralGatherer
  /-- Others gather nothing. -/
  gathers_none : agent.category ≠ .worker →
    agent.can .mineralGatherer = false ∧ agent.can .gasGatherer = false
  /-- A worker falls back on a stored order to gather what it gathers. -/
  fallback : agent.category = .worker → ∃ id intent, agent.fallback = some id ∧
    book.intent? id = some intent ∧ intent.assignee = .fallback ∧
      intent.action.kind =
        if agent.can .mineralGatherer then .harvestMineralsNear else .harvestGasNear
  fallback_none : agent.category ≠ .worker → agent.fallback = none

namespace HasRole

variable {agent other : Agent} {book later : OrderBook}

/-- Whether an agent has a role is seen from its role alone. -/
theorem congr (has : agent.HasRole book) (h : other.role = agent.role) : other.HasRole book := by
  obtain ⟨category, fallback, worker, minerals, gas⟩ := Role.mk.inj h
  obtain ⟨hworker, hone, hnone, hfallback, hfallback_none⟩ := has
  rw [← category, ← worker] at hworker
  rw [← category, ← minerals, ← gas] at hone hnone
  rw [← category, ← fallback, ← minerals] at hfallback
  rw [← category, ← fallback] at hfallback_none
  exact ⟨hworker, hone, hnone, hfallback, hfallback_none⟩

/-- Roles stay as they are as long as stored orders keep their tasks. -/
theorem mono (has : agent.HasRole book) (keeps : book.KeepsTasks later) : agent.HasRole later := by
  refine ⟨has.worker_iff, has.gathers_one, has.gathers_none, ?_, has.fallback_none⟩
  intro worker
  obtain ⟨id, intent, hfallback, hintent, hassignee, haction⟩ := has.fallback worker
  obtain ⟨kept, hkept, hsame, hsame'⟩ := keeps id intent hintent
  exact ⟨id, kept, hfallback, hkept, hsame.trans hassignee, (congrArg _ hsame').trans haction⟩

/-- The role of a worker. -/
theorem of_worker {id : OrderId} {intent : Intent} (worker : agent.category = .worker)
    (can : agent.can .worker = true)
    (gathers : agent.can .gasGatherer = !agent.can .mineralGatherer)
    (fallback : agent.fallback = some id) (stored : book.intent? id = some intent)
    (assignee : intent.assignee = .fallback) (action : intent.action.kind =
      if agent.can .mineralGatherer then .harvestMineralsNear else .harvestGasNear) :
    agent.HasRole book where
  worker_iff := iff_of_true can worker
  gathers_one _ := gathers
  gathers_none other := absurd worker other
  fallback _ := ⟨id, intent, fallback, stored, assignee, action⟩
  fallback_none other := absurd worker other

/-- What an agent falls back on is stored. -/
theorem contains_fallback (has : agent.HasRole book) {id : OrderId}
    (h : agent.fallback = some id) : book.orders.contains id = true := by
  have worker : agent.category = .worker := by
    refine Classical.byContradiction fun other => ?_
    rw [has.fallback_none other] at h
    cases h
  obtain ⟨stored, intent, hstored, hintent, -⟩ := has.fallback worker
  obtain rfl : stored = id := Option.some.inj (hstored.symm.trans h)
  rw [OrderBook.contains_eq_intent?, hintent]
  rfl

end HasRole

/-! ## New agents -/

/-- What is made of a unit has the category of the unit. -/
theorem category_ofUnit (unit : UnitView) : (Agent.ofUnit unit).category = unit.category := by
  unfold Agent.ofUnit
  cases unit.isFlying <;> rfl

/-- What is made of a unit has nothing to fall back on yet. -/
theorem fallback_ofUnit (unit : UnitView) : (Agent.ofUnit unit).fallback = none := by
  unfold Agent.ofUnit
  cases unit.isFlying <;> rfl

/-- An agent that is not a worker has its role from the start. -/
theorem hasRole_ofUnit {unit : UnitView} (other : unit.category ≠ .worker) (book : OrderBook) :
    (Agent.ofUnit unit).HasRole book := by
  -- Flying is the one capability that does not come from the category.
  have hcan : ∀ capability, capability ≠ .flying →
      (Agent.ofUnit unit).can capability = unit.category.capabilities.contains capability :=
    fun capability => can_ofUnit unit
  have hcategory := category_ofUnit unit
  constructor
  · rw [hcan .worker (by decide), hcategory]
    revert other
    cases unit.category <;> decide
  · intro worker
    exact absurd (hcategory.symm.trans worker) other
  · intro _
    rw [hcan .mineralGatherer (by decide), hcan .gasGatherer (by decide)]
    revert other
    cases unit.category <;> decide
  · intro worker
    exact absurd (hcategory.symm.trans worker) other
  · intro _
    exact fallback_ofUnit unit

/-- A worker has its role once it has an order to gather minerals to fall back on. -/
theorem hasRole_fallBackOn {unit : UnitView} (worker : unit.category = .worker) {book : OrderBook}
    {id : OrderId} {intent : Intent} (stored : book.intent? id = some intent)
    (assignee : intent.assignee = .fallback)
    (action : intent.action.kind = .harvestMineralsNear) :
    ((Agent.ofUnit unit).fallBackOn id).HasRole book := by
  have hcan : ∀ capability, capability ≠ .flying →
      ((Agent.ofUnit unit).fallBackOn id).can capability =
        Category.worker.capabilities.contains capability := by
    intro capability h
    rw [← worker]
    exact can_ofUnit unit h
  have hminerals := hcan .mineralGatherer (by decide)
  refine .of_worker ((category_ofUnit unit).trans worker) (hcan .worker (by decide)) ?_ rfl stored
    assignee ?_
  · rw [hminerals, hcan .gasGatherer (by decide)]
    rfl
  · rw [hminerals, action]
    rfl

end Agent

end Skirmish
