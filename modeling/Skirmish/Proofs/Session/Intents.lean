import Skirmish.Proofs.Session.Numbering

/-!
# Callbacks keep the intents of orders

What an order is meant to do is settled when it is stored. `callbacks_keep_intents` says that no
callback changes it, whether it succeeds or fails: a stored order stays stored under its id, and only
the agents on its list come and go. What a callback adds to the stored orders is one order for each
worker that is new on the roster and for each that is moved to gas, under an id that was free.

## Shape of the proof

`OrderBook.Keeps` compares the books before and after a change. It is composed along everything that
a callback does, which is done once for all such relations (`OrderBook.SpansCallbacks.react`). Which
ids are added has been settled by `makes_react`, and that they were free by `Counted.hasRoom`.
-/

namespace Skirmish

/-- Whether all stored orders keep their intents. Orders that are found under their own ids go on
being so. -/
def OrderBook.Keeps (before after : OrderBook) : Prop :=
  before.Keyed → after.Keyed ∧
    ∀ id intent, before.intent? id = some intent → after.intent? id = some intent

namespace OrderBook.Keeps

variable {before middle after : OrderBook}

theorem refl (book : OrderBook) : book.Keeps book :=
  fun keyed => ⟨keyed, fun _ _ => id⟩

theorem trans (h₁ : before.Keeps middle) (h₂ : middle.Keeps after) : before.Keeps after := by
  intro keyed
  obtain ⟨keyed, hfirst⟩ := h₁ keyed
  obtain ⟨keyed, hsecond⟩ := h₂ keyed
  exact ⟨keyed, fun id intent h => hsecond id intent (hfirst id intent h)⟩

/-- A book with the same intents keeps the orders. -/
theorem of_intent?_eq (keyed : before.Keyed → after.Keyed)
    (h : after.intent? = before.intent?) : before.Keeps after := by
  refine fun hkeyed => ⟨keyed hkeyed, fun id intent hintent => ?_⟩
  rw [h, hintent]

theorem store (book : OrderBook) (order : Order) : book.Keeps (book.store order) :=
  fun keyed => ⟨keyed.store order, fun _ _ => intent?_store⟩

theorem storeAll (book : OrderBook) (orders : List Order) :
    book.Keeps (Strategy.storeAll book orders) := by
  induction orders generalizing book with
  | nil => exact refl book
  | cons order orders ih => exact (store book order).trans (ih _)

/-- Kept intents in terms of orders: nothing but the list of an order can differ. -/
theorem get? (keeps : before.Keeps after) (keyed : before.Keyed) {id : OrderId} {order : Order}
    (h : before.orders.get? id = some order) :
    ∃ assigned, after.orders.get? id = some { order with assigned } := by
  obtain ⟨hkeyed, hintents⟩ := keeps keyed
  have hintent : after.intent? id = some order.intent := by
    refine hintents id order.intent ?_
    rw [intent?, h, Option.map_some]
  obtain ⟨kept, hkept, hsame⟩ := Option.map_eq_some_iff.mp hintent
  refine ⟨kept.assigned, ?_⟩
  have hid : kept.id = order.id := (hkeyed id kept hkept).trans (keyed id order h).symm
  rw [hkept, ← hid, ← hsame]

end OrderBook.Keeps

/-! ## What callbacks do to the book -/

namespace Session

/-- An agent that becomes idle keeps the orders under their ids. -/
theorem keyed_becameIdle {session : Session} (keyed : session.book.Keyed) (tag : UnitTag) :
    (session.becameIdle tag).session.book.Keyed := by
  unfold becameIdle
  split
  · exact keyed
  · rw [unassign_eq_unassignAll]
    exact keyed.unassignAll _

/-- A unit that was destroyed keeps the orders under their ids. -/
theorem keyed_destroyed {session : Session} (keyed : session.book.Keyed) (unit : UnitView) :
    (session.destroyed unit).session.book.Keyed := by
  unfold destroyed
  split
  · exact keyed
  · split
    · exact keyed
    · exact keyed.release unit.tag

end Session

/-- What holds between the books before and after a callback, whatever it is: it holds of changes to
lists and of storing an order to gather something, and it can be composed. -/
structure OrderBook.SpansCallbacks (R : OrderBook → OrderBook → Prop) : Prop where
  relist : ∀ {before after : OrderBook},
    (before.Keyed → after.Keyed ∧ after.intent? = before.intent?) → R before after
  store : ∀ (book : OrderBook) (id : OrderId) {intent : Intent}, intent.assignee = .fallback →
    intent.action.kind.harvests = true → R book (book.store (.issue id intent))
  trans : ∀ {before middle after : OrderBook}, R before middle → R middle after → R before after

namespace OrderBook.SpansCallbacks

open Session

variable {R : OrderBook → OrderBook → Prop}

theorem refl (spans : SpansCallbacks R) (book : OrderBook) : R book book :=
  spans.relist fun keyed => ⟨keyed, rfl⟩

theorem recruit (spans : SpansCallbacks R) (session : Session) (unit : UnitView) (agent : Agent)
    (place : Place) : R session.book (session.recruit unit agent place).book := by
  unfold Session.recruit
  split
  · exact spans.store _ _ rfl rfl
  · exact spans.refl _

theorem welcomeAll (spans : SpansCallbacks R) (units : List UnitView) (session : Session) :
    R session.book (units.foldl welcome session).book := by
  induction units generalizing session with
  | nil => exact spans.refl _
  | cons unit units ih =>
    refine spans.trans ?_ (ih _)
    rcases session.welcome_cases unit with hsame | ⟨-, hrecruit⟩
    · rw [hsame]
      exact spans.refl _
    · rw [hrecruit]
      exact spans.recruit session unit _ _

theorem created (spans : SpansCallbacks R) (session : Session) (unit : UnitView) :
    R session.book (session.created unit).session.book := by
  rcases session.created_cases unit with
    ⟨-, hsame⟩ | ⟨-, ready, home, post, place, hready, -, hcreated⟩
  · rw [hsame]
    exact spans.refl _
  · rw [hcreated, ← hready.book]
    exact spans.recruit ready unit _ place

/-- Sending an agent to gas stays within the relation. -/
theorem sendToGas (spans : SpansCallbacks R) (site : UnitView) (session : Session)
    (tag : UnitTag) : R session.book (Session.sendToGas site session tag).book := by
  have stored : R session.book
      (session.book.store (.issue session.nextId (session.gasIntent site))) :=
    spans.store _ _ rfl rfl
  refine spans.trans stored (spans.relist fun keyed => ⟨?_, intent?_sendToGas site session tag⟩)
  exact (keyed.unassignAll _).change fun _ _ => rfl

theorem completed (spans : SpansCallbacks R) (session : Session) (unit : UnitView) :
    R session.book (session.completed unit).session.book := by
  cases gas : unit.unitType.isGasStructure with
  | true =>
    rw [completed_of_isGasStructure gas]
    show R session.book (List.foldl (Session.sendToGas unit) session _).book
    generalize session.gasCrew unit session.config.gasWorkersPerStructure.toNat = crew
    induction crew generalizing session with
    | nil => exact spans.refl _
    | cons tag crew ih => exact spans.trans (spans.sendToGas unit session tag) (ih _)
  | false =>
    obtain ⟨layout, roster, outbox, hcompleted, -⟩ := completed_of_not_isGasStructure gas session
    rw [hcompleted]
    exact spans.refl _

/-- **What spans the parts of callbacks spans all callbacks.** -/
theorem react (spans : SpansCallbacks R) (session : Session) {event : Event}
    (callback : event.IsCallback) : R session.book (session.react event).book := by
  cases event with
  | start snapshot => exact spans.welcomeAll snapshot.ownUnits session
  | tick snapshot => exact spans.relist fun keyed => playTick_keeps keyed snapshot
  | created unit => exact spans.created session unit
  | completed unit => exact spans.completed session unit
  | damaged snapshot unit =>
    rw [Session.react, damaged_eq]
    exact spans.refl _
  | becameIdle tag =>
    exact spans.relist fun keyed =>
      ⟨keyed_becameIdle keyed tag, (session.intent?_becameIdle tag).1⟩
  | destroyed unit =>
    exact spans.relist fun keyed =>
      ⟨keyed_destroyed keyed unit, (session.intent?_destroyed unit).1⟩
  | _ => exact absurd callback id

end OrderBook.SpansCallbacks

/-- Keeping the orders spans the callbacks. -/
theorem OrderBook.Keeps.spansCallbacks : SpansCallbacks Keeps where
  relist h keyed := of_intent?_eq (fun _ => (h keyed).1) (h keyed).2 keyed
  store book id intent _ _ := store book (.issue id intent)
  trans := trans

namespace Session

variable {session : Session}

/-- **No callback changes the intent of a stored order.** -/
theorem keeps_react (session : Session) {event : Event} (callback : event.IsCallback) :
    session.book.Keeps (session.react event).book :=
  OrderBook.Keeps.spansCallbacks.react session callback

/-- After any callbacks the book keeps its orders. -/
theorem keeps_after (session : Session) {events : List Event}
    (callbacks : ∀ event ∈ events, event.IsCallback) :
    session.book.Keeps (session.after events).book := by
  induction events generalizing session with
  | nil => exact .refl _
  | cons event events ih =>
    obtain ⟨callback, callbacks⟩ := List.forall_mem_cons.mp callbacks
    exact (session.keeps_react callback).trans (ih _ callbacks)

/-! ## All sessions -/

/-- To take ids keeps the orders. -/
theorem Takes.keeps {after : Session} {count : Nat} (takes : session.Takes after count) :
    session.book.Keeps after.book := by
  obtain ⟨strategy, orders, -, rfl⟩ := takes
  exact .storeAll _ _

/-- Every event leaves orders under their own ids. -/
theorem keyed_react (keyed : session.book.Keyed) (event : Event) :
    (session.react event).book.Keyed := by
  by_cases callback : event.IsCallback
  · exact (session.keeps_react callback keyed).1
  · cases event with
    | install rules => exact ((session.takes_install rules).keeps keyed).1
    | loadStrategy text => exact ((session.takes_loadStrategy text).keeps keyed).1
    | loadOpening => exact (session.takes_loadOpening.keeps keyed).1
    | storeLocation name location => exact keyed
    | storeUnitType name unitType => exact keyed
    | orderMade => exact keyed
    | storeOrder id intent => exact keyed.store _
    | attachBundle outer id intent =>
      simp only [react]
      split
      · rename_i book hbook
        exact (OrderBook.attachBundle_eq_ok rfl hbook).2 keyed
      · exact keyed
    | _ => exact absurd trivial callback

/-- A counted session has its orders under their ids. -/
theorem Counted.keyed {made : Nat} (counted : session.Counted made) : session.book.Keyed := by
  induction counted with
  | new config layout => exact OrderBook.keyed_empty
  | react counted event given ih => exact keyed_react ih event
  | relist counted id assigned ih => exact ih.change fun _ _ => rfl

/-- Whether the stored orders of a session are those that were stored before and so many others,
under ids that were free. -/
def Grows (before after : Session) (count : Nat) : Prop :=
  ∃ fresh : List OrderId, fresh.Nodup ∧ fresh.length = count ∧
    (∀ id ∈ fresh, before.book.orders.contains id = false) ∧
    ∀ id, after.book.orders.contains id = true ↔
      before.book.orders.contains id = true ∨ id ∈ fresh

theorem length_series (id : OrderId) (count : Nat) : (id.series count).length = count := by
  induction count generalizing id with
  | zero => rfl
  | succ count ih => exact congrArg (· + 1) (ih id.next)

/-- A session that makes orders under new ids grows by as many. -/
theorem Makes.grows {after : Session} {count : Nat} (makes : session.Makes after count)
    (room : session.HasRoom count) : session.Grows after count :=
  ⟨session.nextId.series count, room.distinct, length_series _ _, room.free, makes.stored_iff⟩

/-- **Callbacks keep intents.** Whatever callbacks come, every order that is stored remains stored
under its id, and nothing of it but its list can be different. In one callback the stored ids grow by
one free id for every worker that is new on the roster, when the game starts or when a unit appears,
and for every agent that is moved from minerals to gas, when a building is finished; in all other
callbacks they stay the same. The numbers of orders must not run out for this. -/
theorem Counted.callbacks_keep_intents {made : Nat} (counted : session.Counted made) :
    (∀ events, (∀ event ∈ events, Event.IsCallback event) →
      ∀ id order, session.book.orders.get? id = some order →
        ∃ assigned, (session.after events).book.orders.get? id = some { order with assigned }) ∧
      ∀ event, Event.IsCallback event → made + session.ordersMade event < UInt64.size →
        session.Grows (session.react event) (session.ordersMade event) := by
  constructor
  · intro events callbacks id order horder
    exact (session.keeps_after callbacks).get? counted.keyed horder
  · intro event callback room
    exact (session.makes_react callback).grows (counted.hasRoom room)

/-- When a gas structure is finished in the small game, the worker gets a second order, and the first
one stays what it was. -/
theorem Counted.callbacks_keep_intents_smallGame :
    (∃ order, SmallGame.session.book.orders.get? ⟨1⟩ = some order ∧ ∃ assigned,
      (SmallGame.session.after [.completed SmallGame.assimilator, .becameIdle ⟨8⟩]).book.orders.get?
        ⟨1⟩ = some { order with assigned }) ∧
      SmallGame.session.Grows (SmallGame.session.react (.completed SmallGame.assimilator)) 1 := by
  obtain ⟨hkept, hgrows⟩ := counted_smallGame.callbacks_keep_intents
  have hmade : SmallGame.session.ordersMade (.completed SmallGame.assimilator) = 1 := by decide
  obtain ⟨order, horder⟩ := Option.isSome_iff_exists.mp
    (show (SmallGame.session.book.orders.get? ⟨1⟩).isSome = true by decide)
  refine ⟨⟨order, horder, ?_⟩, ?_⟩
  · exact hkept [.completed SmallGame.assimilator, .becameIdle ⟨8⟩]
      (by simp [Event.IsCallback]) ⟨1⟩ order horder
  · have hfresh := hgrows (.completed SmallGame.assimilator) trivial
    rw [hmade] at hfresh
    exact hfresh (by decide)

end Session

end Skirmish
