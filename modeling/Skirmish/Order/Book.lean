import Skirmish.Order.Basic

/-!
# The order book

The book holds the stored orders by their ids and remembers which order was stored last. What is
stored under an id stays: storing another order with the id does nothing.
-/

namespace Skirmish

/-- The stored orders. -/
structure OrderBook where
  orders : Table OrderId Order
  /-- The id of the order that was stored last. -/
  last : Option OrderId

namespace OrderBook

/-- The book without orders. -/
def empty : OrderBook := ⟨.empty, none⟩

instance : Inhabited OrderBook := ⟨empty⟩

/-- The order with an id. -/
def find (book : OrderBook) (id : OrderId) : Except Error Order :=
  match book.orders.get? id with
  | some order => .ok order
  | none => .error (.orderNotFound id)

/-- Store an order, unless there is one with its id. -/
def store (book : OrderBook) (order : Order) : OrderBook :=
  if book.orders.contains order.id then book
  else ⟨book.orders.insert order.id order, some order.id⟩

/-- Put a changed order in the place of the one with its id. -/
def replace (book : OrderBook) (order : Order) : OrderBook :=
  { book with orders := book.orders.modify order.id fun _ => order }

/-- Change the order with an id. -/
def update (book : OrderBook) (id : OrderId) (change : Order → Except Error Order) :
    Except Error OrderBook := do
  let order ← change (← book.find id)
  return { book with orders := book.orders.insert id order }

/-- Store an order and let it follow another one. If that one is missing, locked or already followed
by an order, nothing is stored. -/
def attachBundle (book : OrderBook) (outer : OrderId) (inner : Order) : Except Error OrderBook := do
  let book ← book.update outer fun order => order.bundle inner.id
  return book.store inner

/-- Take an agent off an order. -/
def unassign (book : OrderBook) (id : OrderId) (tag : UnitTag) : OrderBook :=
  { book with orders := book.orders.modify id fun order => order.unassign tag }

/-- The orders that an agent is assigned to. -/
def ordersOf (book : OrderBook) (tag : UnitTag) : List Order :=
  book.orders.values.filter fun order => order.assigned.contains tag

/-- Take an agent off every order. -/
def release (book : OrderBook) (tag : UnitTag) : OrderBook :=
  { book with orders := book.orders.map fun _ order => order.unassign tag }

end OrderBook

end Skirmish
