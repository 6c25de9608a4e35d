import Skirmish.Proofs.Order.Book

/-!
# Chains of orders

An order can be followed by another one, and that one by a third. `OrderBook.Leads` lists the stored
orders that are met when these links are followed until one order is followed by nothing. A chain is
read off the intents of the stored orders, so it is the same in all books with the same intents.
-/

namespace Skirmish

namespace OrderBook

variable {book other : OrderBook} {start : Option OrderId} {ids : List OrderId}

/-- Whether the links from a start lead through some stored orders and end after the last one. -/
inductive Leads (book : OrderBook) : Option OrderId → List OrderId → Prop where
  | done : Leads book none []
  | link {id : OrderId} {intent : Intent} {ids : List OrderId}
      (stored : book.intent? id = some intent) (rest : Leads book intent.followUp ids) : Leads book (some id) (id :: ids)

/-- Where the links lead depends on the intents only. -/
theorem Leads.of_intent?_eq (leads : book.Leads start ids) (h : other.intent? = book.intent?) :
    other.Leads start ids := by
  induction leads with
  | done => exact .done
  | link stored _ ih => exact .link (h ▸ stored) ih

end OrderBook

/-- Whether every order of a list is followed by the one after it, and the last one by none. -/
def Order.IsChain : List Order → Prop
  | [] => True
  | order :: orders =>
    order.intent.followUp = orders.head?.map (·.id) ∧ Order.IsChain orders

/-- A chain whose orders are stored leads through all of them. -/
theorem OrderBook.leads_of_isChain {book : OrderBook} {orders : List Order}
    (chain : Order.IsChain orders)
    (stored : ∀ order ∈ orders, book.intent? order.id = some order.intent) :
    book.Leads (orders.head?.map (·.id)) (orders.map (·.id)) := by
  induction orders with
  | nil => exact .done
  | cons order orders ih =>
    obtain ⟨hfollowUp, hrest⟩ := chain
    obtain ⟨hstored, hothers⟩ := List.forall_mem_cons.mp stored
    have hleads := ih hrest hothers
    rw [← hfollowUp] at hleads
    exact .link hstored hleads

end Skirmish
