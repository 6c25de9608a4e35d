import Mathlib.Data.List.Dedup
import Skirmish.Proofs.Order.InPlace

/-!
# The first order under an id

An order comes into the book by being stored, or by being attached to an order that it is to follow.
Orders can be copied and the copies changed, so the same id may be offered to the book many times.
The book keeps the first of them: `Records` says what is in a book by the orders that it has been
offered and the bundles that have been made, whatever came in between. Storing an order and making a
bundle keep the record (`Records.store`, `Records.bundle`), and so does a history of both
(`Records.fileAll`).
-/

namespace Skirmish

/-- The order with the one that follows it by a bundle, if there is a bundle for it. -/
def Order.bundledBy (order : Order) (bundles : List (OrderId × OrderId)) : Order :=
  match bundles.lookup order.id with
  | some inner => order.followedBy inner
  | none => order

/-- Whether there is a bundle for an order does not depend on the others. -/
theorem Order.bundledBy_append_of_ne {order : Order} {outer inner : OrderId}
    (h : order.id ≠ outer) (bundles : List (OrderId × OrderId)) :
    order.bundledBy (bundles ++ [(outer, inner)]) = order.bundledBy bundles := by
  have hlookup : [(outer, inner)].lookup order.id = none := by
    simp [List.lookup_cons, beq_false_of_ne h]
  rw [bundledBy, List.lookup_append, hlookup, Option.or_none, bundledBy]

/-- An order that is not followed has no bundle. -/
theorem Order.lookup_eq_none_of_bundledBy {order : Order} {bundles : List (OrderId × OrderId)}
    (free : (order.bundledBy bundles).intent.followUp = none) : bundles.lookup order.id = none := by
  cases hlookup : bundles.lookup order.id with
  | none => rfl
  | some next =>
    rw [bundledBy, hlookup] at free
    cases free

namespace OrderBook

/-! ## Histories -/

/-- A way for an order to come into the book. -/
inductive Filing where
  /-- Store an order. -/
  | store (order : Order)
  /-- Store an order and let it follow the one with an id. -/
  | attachBundle (outer : OrderId) (inner : Order)

namespace Filing

/-- What is done to the book. -/
def operation : Filing → Operation
  | store order => .store order
  | attachBundle outer inner => .attachBundle outer inner

/-- The order that is offered to the book. -/
def order : Filing → Order
  | store order => order
  | attachBundle _ inner => inner

/-- The bundle that is made: the order that is followed, and the one that follows. -/
def bundle? : Filing → Option (OrderId × OrderId)
  | store _ => none
  | attachBundle outer inner => some (outer, inner.id)

/-- The filings of a history that succeed. -/
def accepted : OrderBook → List Filing → List Filing
  | _, [] => []
  | book, filing :: filings =>
    match filing.operation.inPlace.run book with
    | .ok () after => filing :: accepted after filings
    | .error _ left => accepted left filings

/-- The orders that a history offers to a book that starts empty, up to those that are refused. -/
def offered (filings : List Filing) : List Order := (accepted empty filings).map order

/-- The bundles that a history makes in a book that starts empty. -/
def bundles (filings : List Filing) : List (OrderId × OrderId) :=
  (accepted empty filings).filterMap bundle?

/-- What a history leaves of the book. -/
def fileAll (filings : List Filing) (book : OrderBook) : OrderBook :=
  Operation.leftAll (filings.map operation) book

theorem accepted_cons (book : OrderBook) (filing : Filing) (filings : List Filing) :
    accepted book (filing :: filings) = match filing.operation.attempt book with
      | .ok after => filing :: accepted after filings
      | .error _ => accepted book filings := by
  rw [accepted, Operation.run_inPlace]
  cases filing.operation.attempt book <;> rfl

theorem fileAll_cons (filing : Filing) (filings : List Filing) (book : OrderBook) :
    fileAll (filing :: filings) book = fileAll filings (filing.operation.left book) :=
  rfl

end Filing

/-! ## The newest id -/

/-- Whether an id is the last one in a list that comes up for the first time. -/
def Newest (ids : List OrderId) (id : OrderId) : Prop :=
  ∃ earlier later, ids = earlier ++ id :: later ∧ id ∉ earlier ∧ later ⊆ id :: earlier

variable {ids : List OrderId} {id new : OrderId}

theorem not_newest_nil : ¬ Newest [] id := by
  rintro ⟨earlier, later, h, -⟩
  simp at h

/-- One more id is the newest if it is new, and otherwise changes nothing. -/
theorem newest_append_singleton :
    Newest (ids ++ [new]) id ↔ if new ∈ ids then Newest ids id else id = new := by
  constructor
  · rintro ⟨earlier, later, h, first, known⟩
    rcases List.eq_nil_or_concat later with rfl | ⟨before, final, rfl⟩
    · obtain ⟨rfl, hid⟩ := List.append_inj' h rfl
      obtain rfl : new = id := by simpa using hid
      rw [if_neg first]
    · rw [List.concat_eq_append] at h known
      rw [← List.cons_append, ← List.append_assoc] at h
      obtain ⟨rfl, hnew⟩ := List.append_inj' h rfl
      obtain rfl : new = final := by simpa using hnew
      have old : new ∈ id :: earlier := known (List.mem_append_right _ (List.mem_singleton_self _))
      have hmem : new ∈ earlier ++ id :: before := by
        rcases List.mem_cons.mp old with rfl | old
        · exact List.mem_append_right _ List.mem_cons_self
        · exact List.mem_append_left _ old
      rw [if_pos hmem]
      exact ⟨earlier, before, rfl, first, List.Subset.trans (List.subset_append_left _ _) known⟩
  · -- An id that has come up before does not count again.
    by_cases hnew : new ∈ ids
    · rw [if_pos hnew]
      rintro ⟨earlier, later, rfl, first, known⟩
      refine ⟨earlier, later ++ [new], by simp, first, List.append_subset.mpr ⟨known, ?_⟩⟩
      refine List.cons_subset.mpr ⟨?_, List.nil_subset _⟩
      rcases List.mem_append.mp hnew with hnew | hnew
      · exact List.mem_cons_of_mem _ hnew
      · rcases List.mem_cons.mp hnew with rfl | hnew
        · exact List.mem_cons_self
        · exact known hnew
    · rw [if_neg hnew]
      rintro rfl
      exact ⟨ids, [], rfl, hnew, List.nil_subset _⟩

/-! ## Records -/

/-- The order that was stored last. -/
def lastStored (book : OrderBook) : Option Order := book.last.bind book.orders.get?

/-- What is in a book that has been offered orders and in which bundles have been made. -/
structure Records (offered : List Order) (bundles : List (OrderId × OrderId)) (book : OrderBook) :
    Prop where
  /-- Under an id stands the first order that was offered with it, and only a bundle has changed
  it. -/
  stored : ∀ id, book.orders.get? id =
    (offered.find? fun order => order.id = id).map (·.bundledBy bundles)
  /-- The mark is on the last id that was new. -/
  last : ∀ id, book.last = some id ↔ Newest (offered.map (·.id)) id
  /-- An order gets at most one bundle. -/
  once : (bundles.map (·.1)).Nodup
  /-- An order that gets a bundle was open and without one when it was offered. -/
  wasOpen : ∀ bundle ∈ bundles, ∃ order,
    offered.find? (fun order => order.id = bundle.1) = some order ∧
      order.intent.isLocked = false ∧ order.intent.followUp = none

namespace Records

variable {offered : List Order} {bundles : List (OrderId × OrderId)} {book after : OrderBook}

/-- The empty book records that nothing was offered and nothing bundled. -/
theorem empty : Records [] [] empty where
  stored _ := rfl
  last _ := ⟨nofun, fun h => absurd h not_newest_nil⟩
  once := List.nodup_nil
  wasOpen := nofun

/-- The ids in the book are those that it has been offered. -/
theorem contains_iff (h : Records offered bundles book) {id : OrderId} :
    book.orders.contains id = true ↔ id ∈ offered.map (·.id) := by
  rw [Table.contains, h.stored, Option.isSome_map, List.find?_isSome, List.mem_map]
  simp only [decide_eq_true_eq]

/-- An order that has not been offered yet has no bundle. -/
theorem lookup_eq_none (h : Records offered bundles book) {id : OrderId}
    (new : id ∉ offered.map (·.id)) : bundles.lookup id = none := by
  apply List.lookup_eq_none_iff.mpr
  intro bundle hbundle
  obtain ⟨first, hfirst, -⟩ := h.wasOpen bundle hbundle
  have hid : first.id = bundle.1 := by simpa using List.find?_some hfirst
  rw [bne_iff_ne]
  rintro rfl
  exact new (hid ▸ List.mem_map_of_mem (List.mem_of_find?_eq_some hfirst))

/-- **Storing an order keeps the record.** -/
theorem store (h : Records offered bundles book) (order : Order) :
    Records (offered ++ [order]) bundles (book.store order) where
  stored id := by
    rw [get?_store, h.stored, List.find?_append]
    -- Storing does not replace, so the first order under an id is the one that counts.
    by_cases hid : id = order.id
    · subst hid
      rw [if_pos rfl, List.find?_singleton, decide_eq_true rfl, if_pos rfl]
      cases hfirst : offered.find? fun other => other.id = order.id with
      | some first => rfl
      | none =>
        have new : order.id ∉ offered.map (·.id) := by
          simpa [List.mem_map] using List.find?_eq_none.mp hfirst
        simp [Order.bundledBy, h.lookup_eq_none new]
    · simp [hid, Ne.symm hid]
  last id := by
    rw [List.map_append, List.map_singleton, newest_append_singleton, OrderBook.store]
    by_cases hold : order.id ∈ offered.map (·.id)
    · rw [if_pos (h.contains_iff.mpr hold), if_pos hold]
      exact h.last id
    · rw [if_neg (mt h.contains_iff.mp hold), if_neg hold]
      simp [eq_comm]
  once := h.once
  wasOpen bundle hbundle := by
    obtain ⟨first, hfirst, wasOpen⟩ := h.wasOpen bundle hbundle
    exact ⟨first, by rw [List.find?_append, hfirst, Option.some_or], wasOpen⟩

/-- **Making a bundle keeps the record.** -/
theorem bundle (h : Records offered bundles book) {outer inner : OrderId}
    (hafter : book.update outer (fun order => order.bundle inner) = .ok after) :
    Records offered (bundles ++ [(outer, inner)]) after := by
  obtain ⟨old, new, hold, hnew, rfl⟩ := update_eq_ok hafter
  obtain ⟨unlocked, free, rfl⟩ := Order.bundle_eq_ok_iff.mp hnew
  obtain ⟨first, hfirst, hbundled⟩ := Option.map_eq_some_iff.mp ((h.stored outer).symm.trans hold)
  have hid : first.id = outer := by simpa using List.find?_some hfirst
  have unbundled : bundles.lookup outer = none := by
    rw [← hid]
    exact Order.lookup_eq_none_of_bundledBy (hbundled ▸ free)
  -- An order that can be bundled is still as it was offered.
  obtain rfl : first = old := by rw [← hbundled, Order.bundledBy, hid, unbundled]
  refine ⟨fun id => ?_, h.last, ?_, ?_⟩
  · rw [change, Table.get?_modify]
    by_cases houter : id = outer
    · subst houter
      rw [if_pos rfl, hold, hfirst]
      simp [Order.bundledBy, hid, unbundled, List.lookup_append]
    · rw [if_neg houter, h.stored]
      cases hother : offered.find? fun order => order.id = id with
      | none => rfl
      | some other =>
        have hne : other.id ≠ outer := by
          rwa [show other.id = id by simpa using List.find?_some hother]
        exact congrArg some (Order.bundledBy_append_of_ne hne bundles).symm
  · rw [List.map_append, List.map_singleton, List.nodup_append]
    refine ⟨h.once, List.nodup_singleton _, ?_⟩
    rintro key hkey other hother rfl
    obtain ⟨made, hmade, rfl⟩ := List.mem_map.mp hkey
    have hne := bne_iff_ne.mp (List.lookup_eq_none_iff.mp unbundled made hmade)
    exact hne (List.mem_singleton.mp hother).symm
  · intro made hmade
    rcases List.mem_append.mp hmade with hmade | hmade
    · exact h.wasOpen made hmade
    · obtain rfl := List.mem_singleton.mp hmade
      exact ⟨first, hfirst, unlocked, free⟩

/-- **A filing that succeeds keeps the record.** A bundle is made before its order is stored. -/
theorem file (h : Records offered bundles book) {filing : Filing}
    (hafter : filing.operation.attempt book = .ok after) :
    Records (offered ++ [filing.order]) (bundles ++ filing.bundle?.toList) after := by
  cases filing with
  | store order =>
    cases hafter
    rw [Filing.bundle?, Option.toList_none, List.append_nil]
    exact h.store order
  | attachBundle outer inner =>
    obtain ⟨bundled, hbundled, rfl⟩ := exists_bundled hafter
    exact (h.bundle hbundled).store inner

/-- **A history keeps the record of the filings that succeed.** -/
theorem fileAll (h : Records offered bundles book) (filings : List Filing) :
    Records (offered ++ (Filing.accepted book filings).map Filing.order)
      (bundles ++ (Filing.accepted book filings).filterMap Filing.bundle?)
      (Filing.fileAll filings book) := by
  induction filings generalizing offered bundles book with
  | nil => simpa [Filing.accepted, Filing.fileAll, Operation.leftAll] using h
  | cons filing filings ih =>
    rw [Filing.fileAll_cons, Operation.left_eq, Filing.accepted_cons]
    cases hattempt : filing.operation.attempt book with
    | error e => exact ih h
    | ok after =>
      have := ih (h.file hattempt)
      cases hbundle : filing.bundle? <;> simpa [hbundle] using this

/-- There are as many orders as ids have been offered. -/
theorem size (h : Records offered bundles book) :
    book.orders.size = (offered.map (·.id)).dedup.length := by
  have perm : book.orders.keys.Perm (offered.map (·.id)).dedup := by
    rw [List.perm_ext_iff_of_nodup book.orders.nodup_keys (List.nodup_dedup _)]
    intro id
    rw [Table.mem_keys, h.contains_iff, List.mem_dedup]
  rw [← perm.length_eq, Table.size, Table.keys, List.length_map]

/-- The order that was stored last is the one with the newest id. -/
theorem lastStored (h : Records offered bundles book) {order : Order} :
    book.lastStored = some order ↔
      ∃ id, Newest (offered.map (·.id)) id ∧ book.orders.get? id = some order := by
  rw [OrderBook.lastStored, Option.bind_eq_some_iff]
  simp only [h.last]

end Records

/-! ## Bundles -/

/-- Whether the order that is to be followed is missing, locked or followed already. -/
def Blocked (book : OrderBook) (outer : OrderId) : Prop :=
  book.orders.get? outer = none ∨ ∃ order, book.orders.get? outer = some order ∧
    (order.intent.isLocked = true ∨ order.intent.followUp ≠ none)

/-- What a bundle has done to the book. -/
structure Attached (book : OrderBook) (outer : OrderId) (inner : Order) (after : OrderBook) :
    Prop where
  /-- The outer order is followed by the inner one, and is otherwise as it was. -/
  followed : ∃ order, book.orders.get? outer = some order ∧
    after.orders.get? outer = some (order.followedBy inner.id)
  /-- There is an order under the id of the inner one. -/
  stored : after.orders.contains inner.id = true
  /-- The other orders that were in the book have not changed. -/
  unchanged : ∀ id, id ≠ outer → book.orders.contains id = true →
    after.orders.get? id = book.orders.get? id
  /-- If there is an order that was not in the book, it is the inner one. -/
  added : ∀ id order, book.orders.contains id = false → after.orders.get? id = some order →
    id = inner.id ∧ order = inner

variable {book : OrderBook} {outer : OrderId} {inner order : Order}

/-- Linking a stored order to the id of another one and storing that one is attaching it. -/
theorem attached_store (horder : book.orders.get? outer = some order) :
    Attached book outer inner
      ((book.change outer fun _ => order.followedBy inner.id).store inner) where
  followed := by
    refine ⟨order, horder, ?_⟩
    rw [get?_store, change, Table.get?_modify, if_pos rfl, horder, Option.map_some,
      Option.getD_some, ite_self]
  stored := contains_store
  unchanged id houter hid := by
    obtain ⟨other, hother⟩ := Option.isSome_iff_exists.mp hid
    rw [get?_store, change, Table.get?_modify, if_neg houter, hother, Option.getD_some, ite_self]
  added id added hid hadded := by
    have hmissing : book.orders.get? id = none := Table.contains_eq_false_iff.mp hid
    have houter : id ≠ outer := by
      rintro rfl
      rw [horder] at hmissing
      cases hmissing
    rw [get?_store, change, Table.get?_modify, if_neg houter, hmissing, Option.getD_none] at hadded
    -- Of the ids that were free only that of the inner order can be taken now.
    by_cases hinner : id = inner.id
    · rw [if_pos hinner] at hadded
      exact ⟨hinner, (Option.some.inj hadded).symm⟩
    · rw [if_neg hinner] at hadded
      cases hadded

/-- A bundle is made unless it is blocked, and then the book is left as it was. -/
theorem attach_settles (book : OrderBook) (outer : OrderId) (inner : Order) :
    match (Operation.attachBundle outer inner).inPlace.run book with
    | .ok () after => ¬ Blocked book outer ∧ Attached book outer inner after
    | .error _ left => Blocked book outer ∧ left = book := by
  rw [Operation.run_inPlace, Operation.attempt]
  cases hattach : book.attachBundle outer inner with
  | ok after =>
    obtain ⟨bundled, hbundled, rfl⟩ := exists_bundled hattach
    obtain ⟨order, new, horder, hnew, rfl⟩ := update_eq_ok hbundled
    obtain ⟨unlocked, free, rfl⟩ := Order.bundle_eq_ok_iff.mp hnew
    refine ⟨?_, attached_store horder⟩
    rintro (hmissing | ⟨other, hother, hblocked⟩)
    · rw [horder] at hmissing
      cases hmissing
    · obtain rfl := Option.some.inj (horder.symm.trans hother)
      simp [unlocked, free] at hblocked
  | error e =>
    refine ⟨?_, rfl⟩
    cases horder : book.orders.get? outer with
    | none => exact Or.inl horder
    | some order =>
      refine Or.inr ⟨order, horder, ?_⟩
      -- An order that is there, open and not followed would have been bundled.
      by_contra hopen
      rw [not_or, Bool.not_eq_true, not_not] at hopen
      have hbundle : order.bundle inner.id = .ok (order.followedBy inner.id) :=
        Order.bundle_eq_ok_iff.mpr ⟨hopen.1, hopen.2, rfl⟩
      rw [attachBundle_eq_map, update_of_stored horder, hbundle] at hattach
      cases hattach

/-- **The first order under an id stays.** After any history of filings, the book holds under each
id the first order that it was offered with it, changed by at most one bundle; the mark is on the
last id that was new; and there are as many orders as there were ids. A bundle fails exactly when it
is blocked, and then nothing has changed; otherwise only the outer order and the new one have. -/
theorem first_write_wins :
    (∀ filings : List Filing,
      Records (Filing.offered filings) (Filing.bundles filings) (Filing.fileAll filings empty) ∧
      (Filing.fileAll filings empty).orders.size =
        ((Filing.offered filings).map (·.id)).dedup.length ∧
      ∀ order, (Filing.fileAll filings empty).lastStored = some order ↔
        ∃ id, Newest ((Filing.offered filings).map (·.id)) id ∧
          (Filing.fileAll filings empty).orders.get? id = some order) ∧
    ∀ (book : OrderBook) (outer : OrderId) (inner : Order),
      match (Operation.attachBundle outer inner).inPlace.run book with
      | .ok () after => ¬ Blocked book outer ∧ Attached book outer inner after
      | .error _ left => Blocked book outer ∧ left = book := by
  refine ⟨fun filings => ?_, attach_settles⟩
  have record := Records.empty.fileAll filings
  rw [List.nil_append, List.nil_append] at record
  exact ⟨record, record.size, fun order => record.lastStored⟩

/-- A clone that is to follow its own original is not stored: the original follows itself, and the
order that was stored after it is still the last one. -/
example :
    let gather : Order := .issue ⟨1⟩ (.harvestMineralsNear .startLocation)
    let train : Order := .issue ⟨2⟩ (.unitTypeSimple .protossNexus .trainProbe)
    let book := Filing.fileAll [.store gather, .store train, .attachBundle ⟨1⟩ gather.lock,
      .attachBundle ⟨1⟩ train] empty
    book.orders.values = [gather.followedBy ⟨1⟩, train] ∧ book.lastStored = some train := by
  cbv

end OrderBook

end Skirmish
