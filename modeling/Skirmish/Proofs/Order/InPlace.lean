import Skirmish.Proofs.Order.Book
import Skirmish.Proofs.Order.Execution

/-!
# Changing orders in place

An operation on an order answers with the changed order or with an error. A program that changes its
order in place can do worse than fail: what it has written before it fails stays written. Here the
changes are such programs, with their checks and writes one after the other, and they come to the
same as the operations:

* `Order.Revision` is a change of what an order is meant to do (`Order.Revision.run_inPlace`);
* `OrderBook.Operation` is anything that is done to an order in the book, or to all of them
  (`OrderBook.Operation.run_inPlace`).

What the operations refuse, the programs refuse before they have written anything.
-/

namespace Skirmish

/-- A program that changes a value in place. One that fails leaves what it has written. -/
abbrev InPlace (σ : Type) : Type → Type := EStateM Error σ

namespace InPlace

variable {σ : Type}

/-- What is left of a value by a program that writes what an operation answers with, and that writes
nothing if the operation refuses. -/
def settle (value : σ) : Except Error σ → EStateM.Result Error σ Unit
  | .ok after => .ok () after
  | .error e => .error e value

/-- A change that is refused is no change. -/
theorem settle_eq_error_iff {value left : σ} {answer : Except Error σ} {e : Error} :
    settle value answer = .error e left ↔ answer = .error e ∧ left = value := by
  cases answer with
  | ok after => exact ⟨nofun, nofun⟩
  | error e' => simp only [settle, EStateM.Result.error.injEq, Except.error.injEq, eq_comm]

end InPlace

open InPlace (settle)

namespace Order

/-! ## One order -/

/-- Fail if the order is locked. -/
def ensureOpen : InPlace Order Unit := do
  let order ← get
  if order.intent.isLocked then throw (.orderLocked order.id)

/-- Overwrite what the order is meant to do. -/
def writeIntent (f : Intent → Intent) : InPlace Order Unit :=
  modify fun order => { order with intent := f order.intent }

/-- A change of what an order is meant to do. -/
inductive Revision where
  /-- Turn the order into one to fall back on. -/
  | setFallback
  /-- Let another order follow. -/
  | bundle (inner : OrderId)
  /-- Set how many units may be using the ability at once. -/
  | setMultiplicity (multiplicity : Multiplicity)
  /-- Move the action to another place. -/
  | setTargetPlace (place : Place)
  /-- Move the disk in which units have to stand. -/
  | setScopePlace (place : Place)

namespace Revision

/-- The order after a revision, or the error with which it is refused. -/
def apply : Revision → Order → Except Error Order
  | setFallback, order => order.setFallback
  | bundle inner, order => order.bundle inner
  | setMultiplicity multiplicity, order => order.setMultiplicity multiplicity
  | setTargetPlace place, order => order.setTargetPlace place
  | setScopePlace place, order => order.setScopePlace place

/-- A revision as a sequence of checks and writes. -/
def inPlace : Revision → InPlace Order Unit
  | setFallback => do
    ensureOpen
    writeIntent ({ · with assignee := .fallback })
  | bundle inner => do
    ensureOpen
    let order ← get
    if order.intent.followUp.isSome then throw (.bundleOccupied order.id)
    writeIntent ({ · with followUp := some inner })
  | setMultiplicity multiplicity => do
    ensureOpen
    writeIntent ({ · with multiplicity })
  | setTargetPlace place => do
    ensureOpen
    let order ← get
    match order.intent.action.moveTo? place with
    | some action => writeIntent ({ · with action })
    | none => throw (.noLocation order.id)
  | setScopePlace place => do
    ensureOpen
    let order ← get
    let radius := (order.intent.scope.map (·.radius)).getD order.intent.proximity
    writeIntent ({ · with scope := some ⟨place, radius⟩ })

/-- A program behind the guard does what a change of the intent does, if it does so on an order that
is open. -/
theorem run_ensureOpen_bind {program : InPlace Order Unit} {order : Order}
    {change : Intent → Except Error Intent}
    (h : program.run order =
      settle order ((change order.intent).map fun intent => { order with intent })) :
    (do ensureOpen; program : InPlace Order Unit).run order =
      settle order (order.revise change) := by
  unfold revise
  cases hlock : order.intent.isLocked with
  | true => simp [ensureOpen, hlock, settle]
  | false => simpa [ensureOpen, hlock] using h

/-- A revision in place comes to the same as the revision: all of its checks stand before its
write. -/
theorem run_inPlace (revision : Revision) (order : Order) :
    revision.inPlace.run order = settle order (revision.apply order) := by
  cases revision <;>
    simp only [inPlace, apply, Order.setFallback, Order.bundle, Order.setMultiplicity,
      Order.setTargetPlace, Order.setScopePlace] <;>
    refine run_ensureOpen_bind ?_
  case bundle inner =>
    cases h : order.intent.followUp <;> simp [h, writeIntent, Except.map, settle]
  case setTargetPlace place =>
    cases h : order.intent.action.moveTo? place <;> simp [h, writeIntent, Except.map, settle]
  case setScopePlace place =>
    cases h : order.intent.scope <;> simp [h, writeIntent, Except.map, settle]
  all_goals rfl

end Revision

end Order

namespace OrderBook

/-! ## The order book -/

/-- Run a program on the order with an id. What the program writes is written to the book, also if
the program fails. -/
def onOrder (id : OrderId) (program : InPlace Order Unit) : InPlace OrderBook Unit := fun book =>
  match book.orders.get? id with
  | none => .error (.orderNotFound id) book
  | some order =>
    match program.run order with
    | .ok () after => .ok () { book with orders := book.orders.insert id after }
    | .error e left => .error e { book with orders := book.orders.insert id left }

/-- Let an order follow the one with an id, and then store it. -/
def attachInPlace (outer : OrderId) (inner : Order) : InPlace OrderBook Unit := do
  onOrder outer (Order.Revision.bundle inner.id).inPlace
  modify fun book => book.store inner

/-- Writing an order where it stands changes nothing. -/
theorem insert_stored {book : OrderBook} {id : OrderId} {order : Order}
    (stored : book.orders.get? id = some order) :
    { book with orders := book.orders.insert id order } = book := by
  have : book.orders.insert id order = book.orders := by
    ext1 key
    rw [Table.get?_insert]
    split
    · rename_i hkey
      rw [hkey, stored]
    · rfl
  rw [this]

/-- A program that settles an order settles the book. -/
theorem run_onOrder {id : OrderId} {program : InPlace Order Unit} {f : Order → Except Error Order}
    (h : ∀ order, program.run order = settle order (f order)) (book : OrderBook) :
    (onOrder id program).run book = settle book (book.update id f) := by
  rw [EStateM.run, onOrder]
  cases stored : book.orders.get? id with
  | none =>
    rw [update_of_missing stored]
    rfl
  | some order =>
    simp only [h, update_of_stored stored]
    cases f order with
    | ok after => rfl
    | error e => simp only [settle, insert_stored stored, Except.map]

/-- A program that always succeeds changes the order with an id. -/
theorem run_onOrder_modify (id : OrderId) (f : Order → Order) (book : OrderBook) :
    (onOrder id (modify f)).run book = settle book (book.update id fun order => .ok (f order)) :=
  @run_onOrder id _ (fun order => .ok (f order)) (fun _ => rfl) book

/-- A bundle in place comes to the same as the bundle: the order that follows is stored only when
the other one has taken it. -/
theorem run_attachInPlace (outer : OrderId) (inner : Order) (book : OrderBook) :
    (attachInPlace outer inner).run book = settle book (book.attachBundle outer inner) := by
  have apply_eq : (Order.Revision.bundle inner.id).apply = fun order => order.bundle inner.id := rfl
  rw [attachInPlace, EStateM.run_bind, run_onOrder (Order.Revision.run_inPlace _),
    attachBundle_eq_map, apply_eq]
  cases book.update outer fun order => order.bundle inner.id <;> rfl

/-! ## Operations -/

/-- An operation that can reach a stored order. -/
inductive Operation where
  /-- Revise the order with an id. -/
  | revise (id : OrderId) (revision : Order.Revision)
  /-- Lock the order with an id. -/
  | lock (id : OrderId)
  /-- Put an agent on the order with an id. -/
  | assign (id : OrderId) (tag : UnitTag)
  /-- Take an agent off the order with an id. -/
  | unassign (id : OrderId) (tag : UnitTag)
  /-- Run the order with an id, for an agent if there is one. -/
  | perform (id : OrderId) (situation : Situation) (dispatch : Dispatch) (agent : Option UnitTag)
  /-- Store an order and let it follow the one with an id. -/
  | attachBundle (outer : OrderId) (inner : Order)
  /-- Store an order. -/
  | store (order : Order)
  /-- Take an agent off every order. -/
  | release (tag : UnitTag)

namespace Operation

/-- The book after an operation, or the error with which it is refused. -/
def attempt : Operation → OrderBook → Except Error OrderBook
  | revise id revision, book => book.update id revision.apply
  | lock id, book => book.update id fun order => .ok order.lock
  | assign id tag, book => book.update id fun order => .ok (order.assign tag)
  | unassign id tag, book => book.update id fun order => .ok (order.unassign tag)
  | perform id situation dispatch agent, book =>
    book.update id fun order => .ok (order.perform situation dispatch agent).order
  | attachBundle outer inner, book => book.attachBundle outer inner
  | store order, book => .ok (book.store order)
  | release tag, book => .ok (book.release tag)

/-- An operation as a program that changes the book in place. -/
def inPlace : Operation → InPlace OrderBook Unit
  | revise id revision => onOrder id revision.inPlace
  | lock id => onOrder id (modify fun order => order.lock)
  | assign id tag => onOrder id (modify fun order => order.assign tag)
  | unassign id tag => onOrder id (modify fun order => order.unassign tag)
  | perform id situation dispatch agent =>
    onOrder id (modify fun order => (order.perform situation dispatch agent).order)
  | attachBundle outer inner => attachInPlace outer inner
  | store order => modify fun book => book.store order
  | release tag => modify fun book => book.release tag

/-- An operation in place comes to the same as the operation. -/
theorem run_inPlace (operation : Operation) (book : OrderBook) :
    operation.inPlace.run book = settle book (operation.attempt book) := by
  cases operation with
  | revise id revision => exact run_onOrder revision.run_inPlace book
  | lock | assign | unassign | perform => exact run_onOrder_modify _ _ book
  | attachBundle outer inner => exact run_attachInPlace outer inner book
  | store | release => rfl

/-- What an operation leaves of the book, whether or not it succeeds. -/
def left (operation : Operation) (book : OrderBook) : OrderBook :=
  match operation.inPlace.run book with
  | .ok () after => after
  | .error _ left => left

/-- What a sequence of operations leaves of the book. -/
def leftAll (operations : List Operation) (book : OrderBook) : OrderBook :=
  operations.foldl (fun book operation => operation.left book) book

/-- A refused operation leaves the whole book as it was. -/
theorem left_eq (operation : Operation) (book : OrderBook) :
    operation.left book = match operation.attempt book with
      | .ok after => after
      | .error _ => book := by
  rw [left, run_inPlace]
  cases operation.attempt book <;> rfl

end Operation

end OrderBook

end Skirmish
