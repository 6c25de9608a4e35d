import Skirmish.Proofs.Order.Pairing
import Skirmish.Proofs.Session.Intents
import Skirmish.Proofs.Session.Loading
import Skirmish.Proofs.Strategy.Assembly

/-!
# Pairings last

A program gets orders in many ways: from a pairing or a constructor, from a strategy file or the
opening, out of the book of a session that plays; it can change them and store them again, in the
same session or in another one. `Order.Obtained` and `Session.Supplied` are the orders and the
sessions that it can have in this way. `Order.pairings_last` says that all of these orders have a
valid pairing, for as long as no order that does something else than harvesting is turned into one to
fall back on.

## Shape of the proof

`OrderBook.AddsValid` compares the books before and after whatever a session does by itself: all
orders that are stored afterwards have been stored before, or are valid. Callbacks keep to it by
`OrderBook.SpansCallbacks.react`, and the loading of strategies because all orders of a file are made
of pairings. The main induction goes over orders and sessions at once (`Order.Obtained.isPaired`,
`Session.Supplied.upholds`).
-/

namespace Skirmish

/-! ## Orders of files -/

namespace Strategy

variable {defaultRadius : Number.Single}

/-- The intent of a table is made of its pairing. -/
theorem OrderEntry.isValid_of_build {rule : String} {entry : OrderEntry} {intent : Intent}
    (h : entry.build rule defaultRadius = .ok intent) : intent.isValid = true := by
  obtain ⟨assignee, -, h⟩ := exists_ok_of_bind h
  obtain ⟨action, -, h⟩ := exists_ok_of_bind h
  obtain ⟨ability, -, h⟩ := exists_ok_of_bind h
  obtain ⟨paired, hpaired, h⟩ := exists_ok_of_bind h
  cases h
  -- What is set besides the pairing does not count.
  have valid := Intent.isValid_of_pair hpaired
  exact valid

/-- All orders of a rule are valid. -/
theorem RuleEntry.Makes.isValid {entry : RuleEntry} {rule : Rule} {chain : List Order}
    (makes : entry.Makes defaultRadius rule chain) :
    ∀ order ∈ chain, order.intent.isValid = true := by
  obtain ⟨-, -, tables, -, -⟩ := makes
  generalize entry.order :: entry.bundles = entries at tables
  induction tables with
  | nil => exact List.forall_mem_nil _
  | cons table _ ih =>
    obtain ⟨intent, hbuilt, hintent⟩ := table
    refine List.forall_mem_cons.mpr ⟨?_, ih⟩
    have valid := OrderEntry.isValid_of_build hbuilt
    rw [hintent]
    exact valid

/-- What is stored of a text is valid. -/
theorem load_stores_valid {text : String} {book after : OrderBook} {next free : OrderId}
    {set : RuleSet} (h : load defaultRadius text book next = (.ok (set, after), free)) :
    ∃ orders : List Order, (∀ order ∈ orders, order.intent.isValid = true) ∧
      after = storeAll book orders := by
  unfold load at h
  cases hfile : File.ofToml text with
  | error e =>
    rw [hfile] at h
    cases h
  | ok file =>
    rw [hfile] at h
    obtain ⟨rules, orders, hrules, -, rfl⟩ := file.buildRules_of_build h
    obtain ⟨made, -, rfl, hmade, -, -⟩ := buildRules_eq_ok hrules
    refine ⟨_, fun order horder => ?_, rfl⟩
    obtain ⟨pair, hpair, horder⟩ := List.mem_flatMap.mp horder
    obtain ⟨entry, -, makes⟩ := exists_makes hmade hpair
    exact makes.isValid order (List.mem_reverse.mp horder)

/-- The orders of the opening are validly paired. -/
theorem Opening.isValid_of_mem {first : OrderId} {order : Order} (h : order ∈ orders first) :
    order.intent.isValid = true := by
  simp only [orders, List.mem_cons, List.not_mem_nil, or_false] at h
  rcases h with rfl | rfl | rfl | rfl | rfl | rfl | rfl | rfl | rfl | rfl <;> rfl

end Strategy

/-! ## What a session stores by itself -/

/-- Whether all orders that are stored afterwards were stored before or are valid. Orders that are
found under their own ids go on being so. -/
def OrderBook.AddsValid (before after : OrderBook) : Prop :=
  before.Keyed → after.Keyed ∧
    ∀ id intent, after.intent? id = some intent →
      before.intent? id = some intent ∨ intent.isValid = true

namespace OrderBook.AddsValid

variable {before middle after : OrderBook}

theorem refl (book : OrderBook) : book.AddsValid book :=
  fun keyed => ⟨keyed, fun _ _ => Or.inl⟩

theorem trans (h₁ : before.AddsValid middle) (h₂ : middle.AddsValid after) :
    before.AddsValid after := by
  intro keyed
  obtain ⟨keyed, hfirst⟩ := h₁ keyed
  obtain ⟨keyed, hsecond⟩ := h₂ keyed
  refine ⟨keyed, fun id intent h => ?_⟩
  rcases hsecond id intent h with hmiddle | valid
  · exact hfirst id intent hmiddle
  · exact Or.inr valid

theorem store (book : OrderBook) {order : Order} (valid : order.intent.isValid = true) :
    book.AddsValid (book.store order) := by
  refine fun keyed => ⟨keyed.store order, fun id intent h => ?_⟩
  obtain ⟨stored, hstored, rfl⟩ := Option.map_eq_some_iff.mp h
  rcases stored_of_store hstored with hold | rfl
  · exact Or.inl (by rw [intent?, hold, Option.map_some])
  · exact Or.inr valid

theorem storeAll (book : OrderBook) {orders : List Order}
    (valid : ∀ order ∈ orders, order.intent.isValid = true) :
    book.AddsValid (Strategy.storeAll book orders) := by
  induction orders generalizing book with
  | nil => exact refl book
  | cons order orders ih =>
    obtain ⟨hfirst, hrest⟩ := List.forall_mem_cons.mp valid
    exact (store book hfirst).trans (ih _ hrest)

/-- Adding valid orders spans the callbacks. -/
theorem spansCallbacks : SpansCallbacks AddsValid where
  relist h keyed := by
    obtain ⟨hkeyed, hintent⟩ := h keyed
    exact ⟨hkeyed, fun id intent hstored => Or.inl (hintent ▸ hstored)⟩
  store book id intent hassignee hharvests := by
    refine store book (?_ : intent.isValid = true)
    rw [Intent.isValid, hassignee]
    exact hharvests
  trans := trans

end OrderBook.AddsValid

/-! ## What a session does by itself -/

/-- The order that comes with an event. -/
def Event.given? : Event → Option Order
  | .storeOrder id intent | .attachBundle _ id intent => some (.issue id intent)
  | _ => none

namespace Session

variable {session : Session}

/-- Loading a strategy adds valid orders. -/
theorem addsValid_loadStrategy (session : Session) (text : String) :
    session.book.AddsValid (session.loadStrategy text).2.book := by
  cases hstrategy : session.strategy with
  | some rules =>
    rw [loadStrategy_of_some hstrategy]
    exact .refl _
  | none =>
    rw [loadStrategy_of_none hstrategy]
    split
    · exact .refl _
    · rename_i rules book next hload
      obtain ⟨orders, valid, rfl⟩ := Strategy.load_stores_valid hload
      exact .storeAll _ valid

/-- Loading the opening adds valid orders. -/
theorem addsValid_loadOpening (session : Session) :
    session.book.AddsValid session.loadOpening.2.book := by
  have valid : ∀ order ∈ Strategy.Opening.orders session.nextId, order.intent.isValid = true :=
    fun order => Strategy.Opening.isValid_of_mem
  unfold loadOpening Strategy.Opening.build
  generalize Strategy.Opening.orders session.nextId = orders at valid ⊢
  generalize Strategy.Opening.idAt session.nextId Strategy.Opening.orderCount = nextId
  obtain ⟨strategy, hinstall⟩ := install_eq { session with
    book := Strategy.storeAll session.book orders, nextId } _
  have hbook := congrArg Session.book hinstall
  rw [hbook]
  exact .storeAll _ valid

/-- **What a session stores by itself is valid.** -/
theorem addsValid_react (session : Session) {event : Event} (own : event.given? = none) :
    session.book.AddsValid (session.react event).book := by
  by_cases callback : event.IsCallback
  · exact OrderBook.AddsValid.spansCallbacks.react session callback
  · cases event with
    | install rules =>
      obtain ⟨strategy, hinstall⟩ := session.install_eq rules
      rw [react, hinstall]
      exact .refl _
    | loadStrategy text => exact session.addsValid_loadStrategy text
    | loadOpening => exact session.addsValid_loadOpening
    | storeLocation | storeUnitType | orderMade => exact .refl _
    | storeOrder | attachBundle => cases own
    | _ => exact absurd trivial callback

end Session

/-! ## What a program can have -/

mutual

/-- The orders that a program can have. A strict program never turns an order into one to fall back
on if it does something else than harvesting. -/
inductive Order.Obtained (strict : Bool) : Order → Prop where
  /-- The order is made of a pairing. -/
  | pair {assignee : Assignee} {action : Action} {ability : Ability} {intent : Intent}
      (id : OrderId) (made : Intent.pair assignee action ability = .ok intent) :
      Order.Obtained strict (.issue id intent)
  /-- The order is made by a constructor. -/
  | typed {intent : Intent} (id : OrderId) (typed : intent.IsTyped) :
      Order.Obtained strict (.issue id intent)
  /-- The order has been stored by the loading of a strategy file. -/
  | loaded {defaultRadius : Number.Single} {text : String} {book after : OrderBook}
      {next free id : OrderId} {rules : RuleSet} {order : Order}
      (loaded : Strategy.load defaultRadius text book next = (.ok (rules, after), free))
      (absent : book.orders.get? id = none) (stored : after.orders.get? id = some order) :
      Order.Obtained strict order
  /-- The order is one of the opening. -/
  | opening {first : OrderId} {order : Order} (h : order ∈ Strategy.Opening.orders first) :
      Order.Obtained strict order
  /-- The order is stored in a session. -/
  | stored {session : Session} {id : OrderId} {order : Order}
      (supplied : Session.Supplied strict session)
      (stored : session.book.orders.get? id = some order) : Order.Obtained strict order
  /-- The order is changed. -/
  | changed {order : Order} (obtained : Order.Obtained strict order) (change : Order.Change)
      (unspoilt : strict = true → ¬ change.Spoils order) :
      Order.Obtained strict (change.left order)

/-- The sessions that are given nothing but orders that the program can have. What an event would
bring along is stored like any other order. -/
inductive Session.Supplied (strict : Bool) : Session → Prop where
  | new (config : Config) (layout : Layout) : Session.Supplied strict (.new config layout)
  /-- An event comes that brings no order. -/
  | react {session : Session} (supplied : Session.Supplied strict session) (event : Event)
      (own : event.given? = none) : Session.Supplied strict (session.react event)
  /-- An order is stored from outside. -/
  | store {session : Session} {order : Order} (supplied : Session.Supplied strict session)
      (obtained : Order.Obtained strict order) :
      Session.Supplied strict { session with book := session.book.store order }
  /-- An order from outside is to follow a stored one. -/
  | attachBundle {session : Session} {outer : OrderId} {inner : Order} {book : OrderBook}
      (supplied : Session.Supplied strict session) (obtained : Order.Obtained strict inner)
      (bundled : session.book.attachBundle outer inner = .ok book) :
      Session.Supplied strict { session with book }
  /-- A stored order is changed. -/
  | changed {session : Session} (supplied : Session.Supplied strict session) (id : OrderId)
      (change : Order.Change)
      (unspoilt : strict = true → ∀ order, session.book.orders.get? id = some order →
        ¬ change.Spoils order) :
      Session.Supplied strict { session with book := session.book.change id change.left }

end

/-- Whether an intent has the pairing that an order can have: a valid one or, if the program is not
strict, one for an agent to fall back on. -/
def Intent.IsPaired (strict : Bool) (intent : Intent) : Prop :=
  intent.isValid = true ∨ strict = false ∧ intent.assignee = .fallback

/-- Whether the stored orders have such pairings, and are found under their own ids. -/
structure OrderBook.Upholds (strict : Bool) (book : OrderBook) : Prop where
  keyed : book.Keyed
  paired : ∀ id order, book.orders.get? id = some order → order.intent.IsPaired strict

variable {strict : Bool}

/-- A change keeps an order paired, if it does not spoil it or need not be strict. -/
theorem Order.Change.isPaired_left {order : Order} {change : Order.Change}
    (paired : order.intent.IsPaired strict) (unspoilt : strict = true → ¬ change.Spoils order) :
    (change.left order).intent.IsPaired strict := by
  by_cases spoils : change.Spoils order
  · refine Or.inr ⟨Bool.eq_false_iff.mpr fun h => unspoilt h spoils, ?_⟩
    exact assignee_left_of_turns spoils.1
  · rcases paired with valid | ⟨loose, fallback⟩
    · exact Or.inl ((isValid_left_iff valid).mpr spoils)
    · refine Or.inr ⟨loose, ?_⟩
      by_cases turns : change.Turns order
      · exact assignee_left_of_turns turns
      · rw [assignee_left turns, fallback]

namespace OrderBook.Upholds

variable {book after : OrderBook}

theorem empty : OrderBook.empty.Upholds strict :=
  ⟨keyed_empty, fun _ _ h => nomatch h⟩

theorem of_addsValid (upholds : book.Upholds strict) (adds : book.AddsValid after) :
    after.Upholds strict := by
  obtain ⟨keyed, hadds⟩ := adds upholds.keyed
  refine ⟨keyed, fun id order horder => ?_⟩
  have hintent : after.intent? id = some order.intent := by rw [intent?, horder, Option.map_some]
  rcases hadds id order.intent hintent with hbefore | valid
  · obtain ⟨old, hold, hsame⟩ := Option.map_eq_some_iff.mp hbefore
    exact hsame ▸ upholds.paired id old hold
  · exact Or.inl valid

theorem store (upholds : book.Upholds strict) {order : Order} (paired : order.intent.IsPaired strict) :
    (book.store order).Upholds strict := by
  refine ⟨upholds.keyed.store order, fun id stored hstored => ?_⟩
  rcases stored_of_store hstored with hold | rfl
  · exact upholds.paired id stored hold
  · exact paired

/-- A stored order may be changed if it stays paired under its id. -/
theorem change (upholds : book.Upholds strict) {id : OrderId} {f : Order → Order}
    (hid : ∀ order, book.orders.get? id = some order → (f order).id = order.id)
    (paired : ∀ order, book.orders.get? id = some order → (f order).intent.IsPaired strict) :
    (book.change id f).Upholds strict := by
  refine ⟨upholds.keyed.change hid, fun key stored hstored => ?_⟩
  rw [OrderBook.change, Table.get?_modify] at hstored
  split at hstored
  · rename_i hkey
    subst hkey
    obtain ⟨old, hold, rfl⟩ := Option.map_eq_some_iff.mp hstored
    exact paired old hold
  · exact upholds.paired key stored hstored

end OrderBook.Upholds

mutual

/-- **The orders that a program can have.** -/
theorem Order.Obtained.isPaired {order : Order} : order.Obtained strict → order.intent.IsPaired strict
  | .pair _ made => Or.inl (Intent.isValid_of_pair made)
  | .typed _ typed => Or.inl typed.isValid
  | .loaded loaded absent stored => by
    obtain ⟨orders, valid, rfl⟩ := Strategy.load_stores_valid loaded
    rw [Strategy.get?_storeAll, absent, Option.none_or] at stored
    exact Or.inl (valid order (List.mem_of_find?_eq_some stored))
  | .opening h => Or.inl (Strategy.Opening.isValid_of_mem h)
  | .stored supplied stored => supplied.upholds.paired _ _ stored
  | .changed obtained _ unspoilt => Order.Change.isPaired_left obtained.isPaired unspoilt

/-- **The orders that are stored in a session.** -/
theorem Session.Supplied.upholds {session : Session} :
    session.Supplied strict → session.book.Upholds strict
  | .new _ _ => .empty
  | .react supplied _ own => supplied.upholds.of_addsValid (Session.addsValid_react _ own)
  | .store supplied obtained => supplied.upholds.store obtained.isPaired
  | .attachBundle supplied obtained bundled => by
    -- A bundle changes no pairing of the outer order.
    obtain ⟨old, hold, rfl⟩ := OrderBook.attachBundle_eq bundled
    refine OrderBook.Upholds.store (supplied.upholds.change ?_ ?_) obtained.isPaired
    · intro order horder
      rw [hold] at horder
      rw [Option.some.inj horder]
    · intro _ _
      exact supplied.upholds.paired _ old hold
  | .changed supplied id change unspoilt => by
    refine supplied.upholds.change ?_ ?_
    · intro order horder
      exact change.id_left order
    · intro order horder
      exact Order.Change.isPaired_left (supplied.upholds.paired id order horder)
        fun h => unspoilt h order horder

end

/-! ## The result -/

namespace Order

/-- Whether the assignee of an order can do its action, or else the error that says that it
cannot. -/
def checkPairing (order : Order) : Except Error Unit :=
  Intent.checkPairing order.intent.assignee order.intent.action

theorem checkPairing_eq_ok_iff {order : Order} :
    order.checkPairing = .ok () ↔ order.intent.isValid = true := Intent.checkPairing_eq_ok_iff

/-- **Pairings last.** Take the orders that a program can have: made of pairings or by constructors,
loaded, stored in a session that plays, changed by any calls, and stored again.

* If the program is strict, all of them have a valid pairing.
* If it is not, the others are ones to fall back on, and their pairing is refused.
* Along any calls, an order with a valid pairing keeps the kind of its action, and its assignee too
  unless a call turns it. It ends up with a valid pairing just if no call has turned it or it
  harvests. -/
theorem pairings_last :
    (∀ order, Obtained true order → order.checkPairing = .ok ()) ∧
    (∀ order, Obtained false order →
      order.checkPairing = .ok () ∨ order.intent.assignee = .fallback ∧
        order.checkPairing = .error (.invalidPairing .fallback order.intent.action.kind)) ∧
    ∀ (order : Order) (changes : List Change), order.checkPairing = .ok () →
      Change.Traces order (Change.leftAll changes order) (Change.SomeTurns changes order) ∧
        ((Change.leftAll changes order).checkPairing = .ok () ↔
          ¬ Change.SomeTurns changes order ∨ order.intent.action.kind.harvests = true) := by
  refine ⟨fun order obtained => ?_, fun order obtained => ?_, fun order changes valid => ?_⟩
  · rcases obtained.isPaired with valid | ⟨loose, -⟩
    · exact checkPairing_eq_ok_iff.mpr valid
    · cases loose
  · cases valid : order.intent.isValid with
    | true => exact Or.inl (checkPairing_eq_ok_iff.mpr valid)
    | false =>
      obtain ⟨-, fallback⟩ := obtained.isPaired.resolve_left (Bool.eq_false_iff.mp valid)
      refine Or.inr ⟨fallback, ?_⟩
      rw [checkPairing, Intent.checkPairing_of_invalid valid, fallback]
      rfl
  · have traces := Change.traces_leftAll changes order
    refine ⟨traces, checkPairing_eq_ok_iff.trans ?_⟩
    exact traces.isValid_iff (checkPairing_eq_ok_iff.mp valid)

end Order

namespace SmallGame

/-- The session has been given no other orders. -/
theorem supplied_session : session.Supplied strict :=
  .react (.react (.new _ _) (.start snapshot) rfl) (.tick snapshot) rfl

/-- An order to build a pylon. -/
def pylonOrder : Order := .issue ⟨1⟩ pylon

/-- In the small game the worker has an order with a valid pairing. The pairing of an order to build
a pylon is refused once the order is turned, and it stays when the order has been locked before. -/
theorem pairings_last_smallGame :
    (∃ order, session.book.orders.get? ⟨1⟩ = some order ∧ order.checkPairing = .ok ()) ∧
    (Order.Change.leftAll [.revise .setFallback] pylonOrder).checkPairing =
      .error (.invalidPairing .fallback .exactLocation) ∧
    Order.Change.Traces pylonOrder (Order.Change.leftAll [.lock, .revise .setFallback] pylonOrder)
      (Order.Change.SomeTurns [.lock, .revise .setFallback] pylonOrder) := by
  obtain ⟨hstrict, hloose, hchanges⟩ := Order.pairings_last
  refine ⟨?_, ?_, (hchanges pylonOrder _ rfl).1⟩
  · obtain ⟨order, horder⟩ := Option.isSome_iff_exists.mp
      (show (session.book.orders.get? ⟨1⟩).isSome = true by decide)
    exact ⟨order, horder, hstrict order (.stored supplied_session horder)⟩
  · have made : Order.Obtained false pylonOrder := .typed ⟨1⟩ (.unitTypeAt _ _ _)
    have turned := hloose _ (made.changed (.revise .setFallback) (fun h => nomatch h))
    exact (turned.resolve_left (fun h => nomatch h)).2

/-- Nothing keeps the order to build a pylon from being turned, and then its pairing is refused. -/
theorem setFallback_spoils_pylon :
    Order.Obtained true pylonOrder ∧
      ∃ turned, (Order.Change.revise .setFallback).inPlace.run pylonOrder = .ok () turned ∧
        turned.checkPairing = .error (.invalidPairing .fallback .exactLocation) :=
  ⟨.typed ⟨1⟩ (.unitTypeAt _ _ _), _, rfl, rfl⟩

end SmallGame

end Skirmish
