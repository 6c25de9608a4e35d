import Skirmish.Order.Book

/-!
# What the order book says of an order

Three questions are asked of the book: which agents an order lists (`OrderBook.Lists`), what a stored
order is meant to do (`OrderBook.intent?`), and whether orders are found under their own ids
(`OrderBook.Keyed`). The lemmas here answer them after every change to the book. Only taking agents
off and putting them on changes a list, and no change after the storing of an order but a bundle
changes an intent.
-/

namespace Skirmish.Order

/-- The order with another one that follows it. -/
def followedBy (order : Order) (inner : OrderId) : Order :=
  { order with intent := { order.intent with followUp := some inner } }

/-- An order takes a bundle if it is open and nothing follows it yet. -/
theorem bundle_eq_ok_iff {order after : Order} {inner : OrderId} :
    order.bundle inner = .ok after ↔
      order.intent.isLocked = false ∧ order.intent.followUp = none ∧
        after = order.followedBy inner := by
  rw [bundle, revise]
  by_cases locked : order.intent.isLocked = true
  · simp [locked]
  · cases order.intent.followUp <;> simp [locked, followedBy, Except.map, eq_comm]

end Skirmish.Order

namespace Skirmish.OrderBook

variable {book : OrderBook} {id other : OrderId} {tag t : UnitTag}

/-- Whether an order is stored and lists an agent. -/
def Lists (book : OrderBook) (id : OrderId) (tag : UnitTag) : Prop :=
  ∃ order, book.orders.get? id = some order ∧ tag ∈ order.assigned

/-- Whether every order is stored under its own id. -/
def Keyed (book : OrderBook) : Prop := ∀ id order, book.orders.get? id = some order → order.id = id

/-- The intent of a stored order. -/
def intent? (book : OrderBook) (id : OrderId) : Option Intent :=
  (book.orders.get? id).map (·.intent)

theorem not_lists_empty : ¬ empty.Lists id tag := by
  rintro ⟨order, horder, -⟩
  cases horder

theorem keyed_empty : empty.Keyed := by
  intro id order horder
  cases horder

/-! ## Changing one stored order -/

/-- The book in which the order with an id has been changed. -/
def change (book : OrderBook) (id : OrderId) (f : Order → Order) : OrderBook :=
  { book with orders := book.orders.modify id f }

/-- After a change the changed order lists whom the change says, and the others whom they did. -/
theorem lists_change {f : Order → Order} :
    (book.change id f).Lists other t ↔
      (other ≠ id ∧ book.Lists other t) ∨
        (other = id ∧ ∃ order, book.orders.get? id = some order ∧ t ∈ (f order).assigned) := by
  simp only [Lists, change, Table.get?_modify]
  by_cases h : other = id
  · subst h
    simp only [if_true, Option.map_eq_some_iff, ne_eq, not_true_eq_false, false_and, true_and,
      false_or]
    constructor
    · rintro ⟨_, ⟨order, horder, rfl⟩, ht⟩
      exact ⟨order, horder, ht⟩
    · rintro ⟨order, horder, ht⟩
      exact ⟨_, ⟨order, horder, rfl⟩, ht⟩
  · simp [h]

/-- A change that keeps the id keeps the orders under their ids. -/
theorem Keyed.change (keyed : book.Keyed) {f : Order → Order}
    (h : ∀ order, book.orders.get? id = some order → (f order).id = order.id) :
    (book.change id f).Keyed := by
  intro key order horder
  simp only [OrderBook.change, Table.get?_modify] at horder
  split at horder
  · rename_i hkey
    subst hkey
    obtain ⟨old, hold, rfl⟩ := Option.map_eq_some_iff.mp horder
    rw [h old hold]
    exact keyed key old hold
  · exact keyed key order horder

/-- A change that keeps the intent keeps all intents. -/
theorem intent?_change {f : Order → Order}
    (h : ∀ order, book.orders.get? id = some order → (f order).intent = order.intent) :
    (book.change id f).intent? = book.intent? := by
  funext key
  simp only [intent?, OrderBook.change, Table.get?_modify]
  split
  · rename_i hkey
    subst hkey
    cases hold : book.orders.get? key with
    | none => rfl
    | some old => exact congrArg some (h old hold)
  · rfl

/-! ## Taking agents off and putting them on -/

theorem unassign_eq_change : book.unassign id tag = book.change id (·.unassign tag) := rfl

/-- Taking an agent off an order removes this one entry. -/
theorem lists_unassign :
    (book.unassign id tag).Lists other t ↔ book.Lists other t ∧ ¬ (other = id ∧ t = tag) := by
  rw [unassign_eq_change, lists_change]
  constructor
  · rintro (⟨hne, h⟩ | ⟨rfl, order, horder, ht⟩)
    · exact ⟨h, fun hc => hne hc.1⟩
    · have ht := KeySet.mem_erase.mp ht
      exact ⟨⟨order, horder, ht.1⟩, fun hc => ht.2 hc.2⟩
  · rintro ⟨h, hc⟩
    by_cases hid : other = id
    · subst hid
      obtain ⟨order, horder, ht⟩ := h
      exact Or.inr ⟨rfl, order, horder, KeySet.mem_erase.mpr ⟨ht, fun ht => hc ⟨rfl, ht⟩⟩⟩
    · exact Or.inl ⟨hid, h⟩

theorem Keyed.unassign (keyed : book.Keyed) (id : OrderId) (tag : UnitTag) :
    (book.unassign id tag).Keyed :=
  keyed.change fun _ _ => rfl

/-- Take agents off orders, one after the other. -/
def unassignAll (book : OrderBook) (releases : List (OrderId × UnitTag)) : OrderBook :=
  releases.foldl (fun book release => book.unassign release.1 release.2) book

/-- Taking agents off orders removes exactly these entries. -/
theorem lists_unassignAll {releases : List (OrderId × UnitTag)} :
    (book.unassignAll releases).Lists other t ↔ book.Lists other t ∧ (other, t) ∉ releases := by
  induction releases generalizing book with
  | nil => simp [unassignAll]
  | cons release releases ih =>
    rw [unassignAll, List.foldl_cons, ← unassignAll, ih, lists_unassign, List.mem_cons, not_or,
      and_assoc]
    have : (other, t) = release ↔ other = release.1 ∧ t = release.2 := Prod.ext_iff
    rw [this]

theorem Keyed.unassignAll (keyed : book.Keyed) (releases : List (OrderId × UnitTag)) :
    (book.unassignAll releases).Keyed := by
  induction releases generalizing book with
  | nil => exact keyed
  | cons release releases ih => exact ih (keyed.unassign release.1 release.2)

theorem intent?_unassignAll (book : OrderBook) (releases : List (OrderId × UnitTag)) :
    (book.unassignAll releases).intent? = book.intent? := by
  induction releases generalizing book with
  | nil => rfl
  | cons release releases ih =>
    rw [unassignAll, List.foldl_cons, ← unassignAll, ih]
    exact intent?_change fun _ _ => rfl

/-- An order is stored exactly if it has an intent. -/
theorem contains_eq_intent? (book : OrderBook) (id : OrderId) :
    book.orders.contains id = (book.intent? id).isSome := by
  rw [Table.contains, intent?, Option.isSome_map]

theorem contains_change (book : OrderBook) (id : OrderId) (f : Order → Order) (other : OrderId) :
    (book.change id f).orders.contains other = book.orders.contains other := by
  rw [Table.contains, change, Table.get?_modify]
  split
  · exact Option.isSome_map
  · rfl

theorem contains_unassignAll (book : OrderBook) (releases : List (OrderId × UnitTag))
    (other : OrderId) :
    (book.unassignAll releases).orders.contains other = book.orders.contains other := by
  rw [contains_eq_intent?, intent?_unassignAll, ← contains_eq_intent?]

/-- Assigning an agent to a stored order adds this one entry. -/
theorem lists_assign (stored : book.orders.contains id = true) :
    (book.change id (·.assign tag)).Lists other t ↔
      book.Lists other t ∨ (other = id ∧ t = tag) := by
  obtain ⟨order, horder⟩ := Option.isSome_iff_exists.mp stored
  rw [lists_change]
  constructor
  · rintro (⟨-, h⟩ | ⟨rfl, old, hold, ht⟩)
    · exact Or.inl h
    · rcases KeySet.mem_insert.mp ht with rfl | ht
      · exact Or.inr ⟨rfl, rfl⟩
      · exact Or.inl ⟨old, hold, ht⟩
  · rintro (h | ⟨rfl, rfl⟩)
    · by_cases hid : other = id
      · subst hid
        obtain ⟨old, hold, ht⟩ := h
        exact Or.inr ⟨rfl, old, hold, KeySet.mem_insert.mpr (Or.inr ht)⟩
      · exact Or.inl ⟨hid, h⟩
    · exact Or.inr ⟨rfl, order, horder, KeySet.mem_insert.mpr (Or.inl rfl)⟩

/-- Releasing an agent removes it from every order. -/
theorem lists_release : (book.release tag).Lists id t ↔ book.Lists id t ∧ t ≠ tag := by
  simp only [Lists, release, Table.get?_map, Option.map_eq_some_iff]
  constructor
  · rintro ⟨order, ⟨old, hold, rfl⟩, ht⟩
    have ht := KeySet.mem_erase.mp ht
    exact ⟨⟨old, hold, ht.1⟩, ht.2⟩
  · rintro ⟨⟨old, hold, ht⟩, hne⟩
    exact ⟨_, ⟨old, hold, rfl⟩, KeySet.mem_erase.mpr ⟨ht, hne⟩⟩

theorem Keyed.release (keyed : book.Keyed) (tag : UnitTag) : (book.release tag).Keyed := by
  intro key order horder
  simp only [OrderBook.release, Table.get?_map] at horder
  obtain ⟨old, hold, rfl⟩ := Option.map_eq_some_iff.mp horder
  exact keyed key old hold

theorem intent?_release (book : OrderBook) (tag : UnitTag) :
    (book.release tag).intent? = book.intent? := by
  funext id
  rw [intent?, intent?, release, Table.get?_map, Option.map_map]
  rfl

/-! ## Storing orders -/

/-- Storing an order adds it unless there is one under its id. -/
theorem get?_store {order : Order} :
    (book.store order).orders.get? other =
      if other = order.id then some ((book.orders.get? other).getD order)
      else book.orders.get? other := by
  unfold store
  by_cases h : other = order.id
  · subst h
    split
    · rename_i hold
      obtain ⟨old, hold⟩ := Option.isSome_iff_exists.mp hold
      simp [hold]
    · rename_i hnew
      have hnew : book.orders.get? order.id = none :=
        Table.contains_eq_false_iff.mp (Bool.eq_false_iff.mpr hnew)
      simp [Table.get?_insert, hnew]
  · split <;> simp [Table.get?_insert, h]

/-- What is stored after an order has been stored was stored before or is that order. -/
theorem stored_of_store {order stored : Order}
    (h : (book.store order).orders.get? id = some stored) :
    book.orders.get? id = some stored ∨ stored = order := by
  rw [get?_store] at h
  split at h
  · cases hold : book.orders.get? id with
    | none =>
      rw [hold] at h
      exact Or.inr (Option.some.inj h).symm
    | some old =>
      rw [hold] at h
      exact Or.inl h
  · exact Or.inl h

theorem contains_store {order : Order} : (book.store order).orders.contains order.id = true := by
  simp [Table.contains, get?_store]

/-- Storing an order adds its id and no other. -/
theorem contains_store_iff {order : Order} : (book.store order).orders.contains other = true ↔
    book.orders.contains other = true ∨ other = order.id := by
  rw [Table.contains, get?_store]
  by_cases h : other = order.id
  · simp [h]
  · simp [h, Table.contains]

/-- What is stored keeps its intent when another order is stored. -/
theorem intent?_store {order : Order} {intent : Intent} (h : book.intent? id = some intent) :
    (book.store order).intent? id = some intent := by
  obtain ⟨stored, hstored, rfl⟩ := Option.map_eq_some_iff.mp h
  rw [intent?, get?_store, hstored]
  split
  · rfl
  · rfl

/-- A new order is stored with its intent. -/
theorem intent?_store_self {order : Order} (new : book.orders.contains order.id = false) :
    (book.store order).intent? order.id = some order.intent := by
  have hnone : book.orders.get? order.id = none := Table.contains_eq_false_iff.mp new
  rw [intent?, get?_store, if_pos rfl, hnone]
  rfl

/-- Storing an order that nobody is carrying out changes no list. -/
theorem lists_store {order : Order} (unassigned : order.assigned = .empty) :
    (book.store order).Lists other t ↔ book.Lists other t := by
  simp only [Lists, get?_store]
  by_cases h : other = order.id
  · subst h
    cases hold : book.orders.get? order.id with
    | none => simp [unassigned]
    | some old => simp
  · simp [h]

/-- Storing an order keeps the orders under their ids. -/
theorem Keyed.store (keyed : book.Keyed) (order : Order) : (book.store order).Keyed := by
  intro key stored hstored
  rw [get?_store] at hstored
  split at hstored
  · rename_i hkey
    subst hkey
    obtain rfl := Option.some.inj hstored
    cases hold : book.orders.get? order.id with
    | none => rfl
    | some old => exact keyed _ old hold
  · exact keyed key stored hstored

/-! ## Bundles -/

/-- A change of a stored order is decided by that order alone. -/
theorem update_of_stored {stored : Order} (hstored : book.orders.get? id = some stored)
    (f : Order → Except Error Order) :
    book.update id f =
      (f stored).map fun new => { book with orders := book.orders.insert id new } := by
  simp only [update, find, hstored, bind, Except.bind]
  cases f stored <;> rfl

/-- An order that is not stored cannot be updated. -/
theorem update_of_missing (hmissing : book.orders.get? id = none) (f : Order → Except Error Order) :
    book.update id f = .error (.orderNotFound id) := by
  simp only [update, find, hmissing]
  rfl

/-- What a successful change to a stored order has done. -/
theorem update_eq_ok {f : Order → Except Error Order} {after : OrderBook}
    (h : book.update id f = .ok after) :
    ∃ old new, book.orders.get? id = some old ∧ f old = .ok new ∧
      after = book.change id fun _ => new := by
  cases hold : book.orders.get? id with
  | none =>
    rw [update_of_missing hold] at h
    cases h
  | some old =>
    rw [update_of_stored hold] at h
    cases hnew : f old with
    | error e =>
      rw [hnew] at h
      cases h
    | ok new =>
      rw [hnew, Except.map] at h
      obtain rfl := Except.ok.inj h
      refine ⟨old, new, rfl, hnew, ?_⟩
      -- To write the new order back is to change the one that is there.
      have : book.orders.insert id new = book.orders.modify id fun _ => new := by
        ext1 key
        rw [Table.get?_insert, Table.get?_modify]
        by_cases hkey : key = id
        · simp [hkey, hold]
        · simp [hkey]
      rw [change, this]

/-- Whether a bundle succeeds is decided before the inner order is stored. -/
theorem attachBundle_eq_map (book : OrderBook) (outer : OrderId) (inner : Order) :
    book.attachBundle outer inner =
      (book.update outer fun order => order.bundle inner.id).map (·.store inner) := by
  rw [attachBundle]
  cases book.update outer fun order => order.bundle inner.id <;> rfl

/-- A bundle that succeeds lets the outer order be followed and then stores the inner one. -/
theorem exists_bundled {outer : OrderId} {inner : Order} {after : OrderBook}
    (h : book.attachBundle outer inner = .ok after) :
    ∃ bundled, book.update outer (fun order => order.bundle inner.id) = .ok bundled ∧
      after = bundled.store inner := by
  rw [attachBundle_eq_map] at h
  cases hbundled : book.update outer fun order => order.bundle inner.id with
  | error e =>
    rw [hbundled] at h
    cases h
  | ok bundled =>
    rw [hbundled] at h
    exact ⟨bundled, rfl, (Except.ok.inj h).symm⟩

/-- What a successful bundle does to the book. -/
theorem attachBundle_eq {outer : OrderId} {inner : Order} {after : OrderBook}
    (h : book.attachBundle outer inner = .ok after) :
    ∃ old, book.orders.get? outer = some old ∧
      after = (book.change outer fun _ =>
        { old with intent := { old.intent with followUp := some inner.id } }).store inner := by
  obtain ⟨bundled, hbundled, rfl⟩ := exists_bundled h
  obtain ⟨old, new, hold, hnew, rfl⟩ := update_eq_ok hbundled
  obtain ⟨-, -, rfl⟩ := Order.bundle_eq_ok_iff.mp hnew
  exact ⟨old, hold, rfl⟩

/-- A successful bundle leaves lists and ids as they are. -/
theorem attachBundle_eq_ok {outer : OrderId} {inner : Order} {after : OrderBook}
    (unassigned : inner.assigned = .empty) (h : book.attachBundle outer inner = .ok after) :
    (∀ id tag, after.Lists id tag ↔ book.Lists id tag) ∧ (book.Keyed → after.Keyed) := by
  obtain ⟨old, hold, rfl⟩ := attachBundle_eq h
  refine ⟨fun id tag => ?_, fun keyed => ?_⟩
  · rw [lists_store unassigned, lists_change]
    by_cases hkey : id = outer
    · subst hkey
      simp [Lists, hold]
    · simp [hkey]
  · refine Keyed.store (keyed.change fun order horder => ?_) inner
    rw [hold] at horder
    rw [← Option.some.inj horder]

end Skirmish.OrderBook
