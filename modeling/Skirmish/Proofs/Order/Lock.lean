import Skirmish.Proofs.Order.InPlace

/-!
# Locked orders

A stored order can be reached in many ways: it can be revised, be given to agents and taken from
them, be run, be followed by another order, and another order with its id can be stored. An
`OrderBook.Operation` is one of them. Once the order is locked, none of them changes anything but
the agents that the order lists (`Holds.attempt` for one operation, `Holds.leftAll` for a sequence),
and each revision is refused for the lock. An open order refuses a revision for the reasons in
`Order.Revision.Refused` only.
-/

namespace Skirmish

open InPlace (settle settle_eq_error_iff)

namespace Order

/-! ## Refused revisions -/

/-- Whether two orders have the id and the intent in common. -/
def SameTask (order other : Order) : Prop := other.id = order.id ∧ other.intent = order.intent

/-- Orders of the same task differ in their agents only. -/
theorem SameTask.exists_assigned {order other : Order} (h : order.SameTask other) :
    ∃ assigned, other = { order with assigned } := by
  obtain ⟨id, intent, assigned⟩ := other
  obtain ⟨rfl, rfl⟩ := h
  exact ⟨assigned, rfl⟩

/-- A locked order refuses every revision. -/
theorem revise_of_locked {order : Order} (locked : order.intent.isLocked = true)
    (change : Intent → Except Error Intent) :
    order.revise change = .error (.orderLocked order.id) := by
  rw [revise, if_pos locked]

/-- An open order takes a revision of its intent, if that is possible. -/
theorem revise_of_unlocked {order : Order} (unlocked : order.intent.isLocked = false)
    (change : Intent → Except Error Intent) :
    order.revise change = (change order.intent).map fun intent => { order with intent } := by
  rw [revise, unlocked, if_neg Bool.false_ne_true]

namespace Revision

variable {order : Order} {revision : Revision} {e : Error}

/-- A locked order refuses every revision. -/
theorem apply_of_locked (locked : order.intent.isLocked = true) (revision : Revision) :
    revision.apply order = .error (.orderLocked order.id) := by
  cases revision <;>
    simp only [apply, Order.setFallback, Order.bundle, Order.setMultiplicity, Order.setTargetPlace,
      Order.setScopePlace, revise_of_locked locked]

/-- Why an open order refuses a revision. -/
inductive Refused (order : Order) : Revision → Error → Prop where
  /-- An order follows already. -/
  | occupied {inner next : OrderId} (h : order.intent.followUp = some next) :
      Refused order (.bundle inner) (.bundleOccupied order.id)
  /-- The action has no place. -/
  | placeless {place : Place}
      (h : order.intent.action.kind ∈ [.simple, .targetUnit, .groupEdit]) :
      Refused order (.setTargetPlace place) (.noLocation order.id)

/-- An action can be moved unless it has no place. -/
theorem moveTo?_eq_none_iff {action : Action} {place : Place} :
    action.moveTo? place = none ↔ action.kind ∈ [.simple, .targetUnit, .groupEdit] := by
  cases action <;> simp [Action.moveTo?, Action.kind]

/-- An open order refuses a revision exactly for these reasons. -/
theorem apply_eq_error_iff (unlocked : order.intent.isLocked = false) :
    revision.apply order = .error e ↔ revision.Refused order e := by
  cases revision <;>
    simp only [apply, Order.setFallback, Order.bundle, Order.setMultiplicity, Order.setTargetPlace,
      Order.setScopePlace, revise_of_unlocked unlocked]
  case bundle inner =>
    cases hfollowUp : order.intent.followUp with
    | none =>
      constructor
      · intro h
        cases h
      · intro h
        cases h with
        | occupied hnext =>
          rw [hfollowUp] at hnext
          cases hnext
    | some next =>
      constructor
      · intro h
        cases h
        exact .occupied hfollowUp
      · intro h
        cases h
        rfl
  case setTargetPlace place =>
    cases hmoved : order.intent.action.moveTo? place with
    | some action =>
      constructor
      · intro h
        cases h
      · intro h
        cases h with
        | placeless hkind =>
          rw [moveTo?_eq_none_iff.mpr hkind] at hmoved
          cases hmoved
    | none =>
      constructor
      · intro h
        cases h
        exact .placeless (moveTo?_eq_none_iff.mp hmoved)
      · intro h
        cases h
        rfl
  -- The other revisions are refused for the lock only.
  all_goals
    constructor
    · intro h
      cases h
    · intro h
      cases h

end Revision

end Order

namespace OrderBook

/-! ## What a lock keeps -/

/-- Whether an order is stored under an id, up to the agents that it lists. -/
def Holds (book : OrderBook) (id : OrderId) (order : Order) : Prop :=
  ∃ stored, book.orders.get? id = some stored ∧ order.SameTask stored

variable {book after : OrderBook} {id : OrderId} {order : Order}

/-- What a change makes of orders with the same task is all that counts. -/
theorem Holds.update (h : book.Holds id order) {target : OrderId} {f : Order → Except Error Order}
    (hf : ∀ old new, order.SameTask old → f old = .ok new → order.SameTask new)
    (hafter : book.update target f = .ok after) : after.Holds id order := by
  obtain ⟨stored, hstored, same⟩ := h
  obtain ⟨old, new, hold, hnew, rfl⟩ := update_eq_ok hafter
  rw [Holds, change, Table.get?_modify]
  by_cases htarget : id = target
  · subst htarget
    obtain rfl := Option.some.inj (hstored.symm.trans hold)
    rw [if_pos rfl, hold]
    exact ⟨new, rfl, hf stored new same hnew⟩
  · rw [if_neg htarget]
    exact ⟨stored, hstored, same⟩

/-- Storing an order does not replace one that is held. -/
theorem Holds.store (h : book.Holds id order) (new : Order) : (book.store new).Holds id order := by
  obtain ⟨stored, hstored, same⟩ := h
  refine ⟨stored, ?_, same⟩
  rw [get?_store, hstored, Option.getD_some, ite_self]

theorem Holds.release (h : book.Holds id order) (tag : UnitTag) :
    (book.release tag).Holds id order := by
  obtain ⟨stored, hstored, same⟩ := h
  exact ⟨stored.unassign tag, by rw [OrderBook.release, Table.get?_map, hstored]; rfl, same⟩

/-- **One operation keeps a locked order.** -/
theorem Holds.attempt (h : book.Holds id order) (locked : order.intent.isLocked = true)
    {operation : Operation} (hafter : operation.attempt book = .ok after) :
    after.Holds id order := by
  -- A revision of an order with the same task is refused, so whatever is revised is another order.
  have revised (revision : Order.Revision) (old new : Order) (same : order.SameTask old)
      (hnew : revision.apply old = .ok new) : order.SameTask new := by
    rw [Order.Revision.apply_of_locked (same.2 ▸ locked)] at hnew
    cases hnew
  cases operation with
  | revise target revision => exact h.update (revised revision) hafter
  | lock target =>
    refine h.update (fun old new same hnew => ?_) hafter
    cases hnew
    refine ⟨same.1, ?_⟩
    rw [Order.lock, same.2, ← locked]
  | assign target tag | unassign target tag =>
    refine h.update (fun old new same hnew => ?_) hafter
    cases hnew
    exact same
  | perform target situation dispatch agent =>
    refine h.update (fun old new same hnew => ?_) hafter
    cases hnew
    have performed := old.performed_perform situation dispatch agent
    exact ⟨performed.id.trans same.1, performed.intent.trans same.2⟩
  | attachBundle outer inner =>
    obtain ⟨bundled, hbundled, rfl⟩ := exists_bundled hafter
    exact (h.update (revised (.bundle inner.id)) hbundled).store inner
  | store new =>
    cases hafter
    exact h.store new
  | release tag =>
    cases hafter
    exact h.release tag

/-- **A sequence of operations keeps a locked order.** -/
theorem Holds.leftAll (h : book.Holds id order) (locked : order.intent.isLocked = true)
    (operations : List Operation) : (Operation.leftAll operations book).Holds id order := by
  induction operations generalizing book with
  | nil => exact h
  | cons operation operations ih =>
    apply ih
    simp only [Operation.left_eq]
    cases hattempt : operation.attempt book with
    | ok after => exact h.attempt locked hattempt
    | error e => exact h

/-! ## The lock -/

/-- What is true of a locked order and of the book that it is stored in. -/
structure Frozen (order : Order) (id : OrderId) (assigned : KeySet UnitTag) (book : OrderBook) :
    Prop where
  /-- Nothing but its agents has changed. -/
  stored : book.orders.get? id = some { order with assigned }
  /-- Every revision of it is refused for the lock. -/
  refusesRevision : ∀ revision, (Operation.revise id revision).inPlace.run book =
    .error (.orderLocked order.id) book
  /-- Every other order that is to follow it is refused for the lock, and is not stored. -/
  refusesBundle : ∀ inner, (Operation.attachBundle id inner).inPlace.run book =
    .error (.orderLocked order.id) book
  /-- It can still be given to agents. -/
  assigns : ∀ tag, ∃ after, (Operation.assign id tag).inPlace.run book = .ok () after ∧
    after.orders.get? id = some { order with assigned := assigned.insert tag }
  /-- It can still be taken from agents. -/
  unassigns : ∀ tag, ∃ after, (Operation.unassign id tag).inPlace.run book = .ok () after ∧
    after.orders.get? id = some { order with assigned := assigned.erase tag }

/-- A change that succeeds on a stored order is written to the book. -/
theorem exists_update_of_stored {stored new : Order} (hstored : book.orders.get? id = some stored)
    {f : Order → Except Error Order} (hnew : f stored = .ok new) :
    ∃ after, settle book (book.update id f) = .ok () after ∧ after.orders.get? id = some new := by
  rw [update_of_stored hstored, hnew]
  exact ⟨_, rfl, by rw [Table.get?_insert, if_pos rfl]⟩

/-- A locked order is frozen where it stands. -/
theorem Holds.frozen (h : book.Holds id order) (locked : order.intent.isLocked = true) :
    ∃ assigned, Frozen order id assigned book := by
  obtain ⟨stored, hstored, same⟩ := h
  have refused (revision : Order.Revision) :
      book.update id revision.apply = .error (.orderLocked order.id) := by
    rw [update_of_stored hstored, revision.apply_of_locked (same.2 ▸ locked), same.1]
    rfl
  obtain ⟨assigned, rfl⟩ := same.exists_assigned
  refine ⟨assigned, hstored, fun revision => ?_, fun inner => ?_, fun tag => ?_, fun tag => ?_⟩
  · rw [Operation.run_inPlace, Operation.attempt, refused]
    rfl
  · -- A bundle is a revision of the outer order first, and that is refused.
    have attempt_eq : (Operation.attachBundle id inner).attempt book =
        .error (.orderLocked order.id) := by
      rw [Operation.attempt, attachBundle_eq_map]
      exact congrArg (Except.map (·.store inner)) (refused (.bundle inner.id))
    rw [Operation.run_inPlace, attempt_eq]
    rfl
  · rw [Operation.run_inPlace]
    exact exists_update_of_stored hstored rfl
  · rw [Operation.run_inPlace]
    exact exists_update_of_stored hstored rfl

/-- **A locked order is frozen, and a refused change changes nothing.** Whatever operations the book
goes through, an order that was stored and locked keeps everything but its agents, refuses its
revisions and can still be assigned. An order that is open refuses what `Order.Revision.Refused`
says, and is then left as it was; and so is the whole book by whatever operation it refuses. -/
theorem frozen_once_locked :
    (∀ (book : OrderBook) (id : OrderId) (order : Order),
      book.orders.get? id = some order → order.intent.isLocked = true →
        ∀ operations, ∃ assigned,
          Frozen order id assigned (Operation.leftAll operations book)) ∧
    (∀ (order : Order) (revision : Order.Revision) (e : Error) (left : Order),
      order.intent.isLocked = false →
        (revision.inPlace.run order = .error e left ↔
          revision.Refused order e ∧ left = order)) ∧
    ∀ (book : OrderBook) (operation : Operation) (e : Error) (left : OrderBook),
      operation.inPlace.run book = .error e left →
        operation.attempt book = .error e ∧ left = book := by
  refine ⟨fun book id order stored locked operations => ?_,
    fun order revision e left unlocked => ?_, fun book operation e left refused => ?_⟩
  · have holds : book.Holds id order := ⟨order, stored, rfl, rfl⟩
    exact (holds.leftAll locked operations).frozen locked
  · rw [Order.Revision.run_inPlace, settle_eq_error_iff, Order.Revision.apply_eq_error_iff unlocked]
  · rw [Operation.run_inPlace] at refused
    exact settle_eq_error_iff.mp refused

end OrderBook

/-- An order that has no place: a base trains a worker. -/
def SmallGame.recruitment : Order := .issue ⟨24⟩ (.unitTypeSimple .protossNexus .trainProbe)

/-- The order, once it is locked, outlasts a revision, a clone without the lock and an agent. Before
that it cannot be moved, and an order that is not stored cannot be locked. -/
theorem OrderBook.frozen_once_locked_recruitment :
    (∃ assigned, Frozen SmallGame.recruitment.lock ⟨24⟩ assigned
      (Operation.leftAll
        [.revise ⟨24⟩ .setFallback, .store SmallGame.recruitment, .assign ⟨24⟩ ⟨7⟩]
        (empty.store SmallGame.recruitment.lock))) ∧
    (Order.Revision.setTargetPlace .startLocation).Refused SmallGame.recruitment
      (.noLocation ⟨24⟩) ∧
    (Operation.lock ⟨25⟩).attempt (empty.store SmallGame.recruitment) =
      .error (.orderNotFound ⟨25⟩) := by
  refine ⟨frozen_once_locked.1 _ _ _ rfl rfl _, ?_, ?_⟩
  · exact ((frozen_once_locked.2.1 _ _ _ SmallGame.recruitment rfl).mp rfl).1
  · exact (frozen_once_locked.2.2 _ _ _ (empty.store SmallGame.recruitment) rfl).1

end Skirmish
