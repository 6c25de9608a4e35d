import Skirmish.Ordered.Key

/-!
# Order ids

Orders are numbered in the order in which they are made, starting with one, modulo `2 ^ 64`. The
number that the next order gets is part of the state of whatever makes orders.
-/

namespace Skirmish

/-- The identity of an order. -/
structure OrderId where
  number : UInt64
deriving DecidableEq, Repr, Inhabited

namespace OrderId

instance : Key OrderId := Key.ofRank (fun o => o.number.toNat) fun {a b} h => by
  cases a
  cases b
  simpa using UInt64.toNat.inj h

/-- The id of the first order. -/
def first : OrderId := ⟨1⟩

/-- The id of the order after this one. -/
def next (id : OrderId) : OrderId := ⟨id.number + 1⟩

/-- An id in a message. -/
def text (id : OrderId) : String := s!"order-{id.number.toNat}"

end OrderId

end Skirmish
