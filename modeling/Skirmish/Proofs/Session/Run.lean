import Skirmish.Proofs.Order.Book
import Skirmish.Proofs.Order.Execution
import Skirmish.Session.Basic

/-!
# What a run does to a session

`Session.Ran` says what running a stored order does to everything that lasts: commands are added to
the outbox, the commanded agents take the order up, the book lists them there and nowhere else, and
the rest of the session stays. Every statement about ticks is made of `ran_run`, of `run_of_missing`
for the ids that nobody has stored, and of nothing else about the running of orders.
-/

namespace Skirmish.Session

variable {session : Session} {id : OrderId} {order : Order}

/-- What running a stored order does to a session, given the units that it commands. -/
structure Ran (session : Session) (order : Order) (choices : List (UnitTag × CommandTarget))
    (after : Session) : Prop where
  keyed : after.book.Keyed
  intent? : after.book.intent? = session.book.intent?
  lists_iff : ∀ o t, after.book.Lists o t ↔
    (session.book.Lists o t ∨
        o = order.id ∧ t ∈ choices.map (·.1) ∧ session.roster.contains t = true) ∧
      ¬ (t ∈ choices.map (·.1) ∧ session.roster.currentOf t = some o ∧ o ≠ order.id)
  duty? : ∀ t, after.roster.duty? t =
    if t ∈ choices.map (·.1) then (session.roster.duty? t).map (·.takeUp order)
    else session.roster.duty? t
  outbox : after.outbox = session.outbox ++ choices.map order.command

/-! ## Running by id -/

/-- A run of an order that is not stored does nothing. -/
theorem run_of_missing (h : session.book.orders.get? id = none) (snapshot : Snapshot)
    (agent : Option UnitTag) : session.run snapshot id agent = (⟨id, agent, false⟩, session) := by
  unfold run
  rw [h]

/-- A run of a stored order performs it and takes over what it leaves. -/
theorem run_of_stored (h : session.book.orders.get? id = some order) (snapshot : Snapshot)
    (agent : Option UnitTag) :
    session.run snapshot id agent =
      (⟨id, agent, (order.perform (session.situation snapshot) session.dispatch agent).issued⟩,
        session.absorb (order.perform (session.situation snapshot) session.dispatch agent)) := by
  unfold run
  rw [h]
  cases agent <;> rfl

/-- Absorbing an execution does to the session what the execution did to order and dispatch. -/
theorem ran_absorb {choices : List (UnitTag × CommandTarget) × Random} {execution : Execution}
    (keyed : session.book.Keyed) (stored : session.book.orders.get? order.id = some order)
    (h : order.Performed session.dispatch choices execution) :
    session.Ran order choices.1 (session.absorb execution) := by
  have hbook : (session.absorb execution).book =
      (session.book.change order.id fun _ => execution.order).unassignAll
        execution.dispatch.released := by
    rw [← h.id]
    rfl
  have hreleased : ∀ o t, (o, t) ∈ execution.dispatch.released ↔
      t ∈ choices.1.map (·.1) ∧ session.roster.currentOf t = some o ∧ o ≠ order.id := by
    intro o t
    rw [h.mem_released o t]
    simp [dispatch]
  refine ⟨?_, ?_, ?_, h.duty?, h.outbox⟩
  · rw [hbook]
    refine (keyed.change fun old hold => ?_).unassignAll _
    rw [h.id, keyed _ _ hold]
  · rw [hbook, OrderBook.intent?_unassignAll]
    refine OrderBook.intent?_change fun old hold => ?_
    rw [stored] at hold
    rw [h.intent, Option.some.inj hold]
  · -- The order lists its new units, and the orders that had them list them no longer.
    intro o t
    rw [hbook, OrderBook.lists_unassignAll, OrderBook.lists_change, hreleased]
    refine and_congr_left fun _ => ?_
    by_cases ho : o = order.id
    · subst ho
      simp [stored, h.mem_assigned, OrderBook.Lists, dispatch]
    · simp [ho]

/-- **What running a stored order does to a session.** -/
theorem ran_run (keyed : session.book.Keyed) (stored : session.book.orders.get? id = some order)
    (snapshot : Snapshot) (agent : Option UnitTag) :
    session.Ran order (order.choices (session.situation snapshot) session.dispatch agent).1
      (session.run snapshot id agent).2 := by
  rw [run_of_stored stored]
  obtain rfl := keyed id order stored
  exact ran_absorb keyed stored (order.performed_perform _ _ _)

/-- A run changes no intent and no strategy. -/
theorem run_keeps (keyed : session.book.Keyed) (snapshot : Snapshot) (id : OrderId)
    (agent : Option UnitTag) :
    (session.run snapshot id agent).2.book.Keyed ∧
      (session.run snapshot id agent).2.book.intent? = session.book.intent? ∧
      (session.run snapshot id agent).2.strategy = session.strategy := by
  cases hid : session.book.orders.get? id with
  | none =>
    rw [run_of_missing hid]
    exact ⟨keyed, rfl, rfl⟩
  | some order =>
    have ran := ran_run keyed hid snapshot agent
    refine ⟨ran.keyed, ran.intent?, ?_⟩
    rw [run_of_stored hid]
    rfl

/-- A run stores no order. -/
theorem contains_run (session : Session) (snapshot : Snapshot) (id : OrderId)
    (agent : Option UnitTag) (other : OrderId) :
    (session.run snapshot id agent).2.book.orders.contains other =
      session.book.orders.contains other := by
  cases hid : session.book.orders.get? id with
  | none => rw [run_of_missing hid]
  | some order =>
    rw [run_of_stored hid]
    exact (OrderBook.contains_unassignAll _ _ other).trans (OrderBook.contains_change _ _ _ other)

/-- A run makes no order. -/
theorem nextId_run (session : Session) (snapshot : Snapshot) (id : OrderId)
    (agent : Option UnitTag) : (session.run snapshot id agent).2.nextId = session.nextId := by
  unfold run
  split <;> rfl

end Skirmish.Session
