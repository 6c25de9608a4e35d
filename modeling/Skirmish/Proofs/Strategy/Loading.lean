import Mathlib.Data.List.Forall2
import Mathlib.Data.List.Nodup
import Mathlib.Data.List.Perm.Basic
import Skirmish.Proofs.Order.Chain
import Skirmish.Proofs.Strategy.Faults

/-!
# What is made of a strategy file

`Strategy.Loaded` says what a file leaves in the order book when it is made into a strategy: a rule
for each rule of the file, an order for each table of an order, chained as the tables are nested, and
nothing else. It follows from what the makers return (`buildChain_eq_ok`, `buildRules_eq_ok`) and from
what storing a list of orders does (`get?_storeAll`, `last_storeAll`).

Orders are numbered from the outside in and stored from the inside out. That the new numbers are free
rests on two assumptions: the stored orders have numbers below the next one
(`OrderBook.IssuedBefore`), and the numbers do not run out.
-/

namespace Skirmish

/-! ## Numbers -/

namespace OrderId

/-- The id after so many others have been given. -/
def advance (id : OrderId) : Nat → OrderId
  | 0 => id
  | count + 1 => id.next.advance count

/-- The next so many ids. -/
def series (id : OrderId) : Nat → List OrderId
  | 0 => []
  | count + 1 => id :: id.next.series count

/-- So many ids and then so many others. -/
theorem advance_add (id : OrderId) (m n : Nat) : id.advance (m + n) = (id.advance m).advance n := by
  induction m generalizing id with
  | zero => rw [Nat.zero_add, advance]
  | succ m ih => rw [Nat.succ_add, advance, advance, ih]

/-- A series is continued by the series from where it ends. -/
theorem series_add (id : OrderId) (m n : Nat) :
    id.series (m + n) = id.series m ++ (id.advance m).series n := by
  induction m generalizing id with
  | zero => rw [Nat.zero_add, advance, series, List.nil_append]
  | succ m ih => rw [Nat.succ_add, series, series, advance, ih, List.cons_append]

/-- The next number is one more, as long as there is one. -/
theorem toNat_next {id : OrderId} (h : id.number.toNat + 1 < UInt64.size) :
    id.next.number.toNat = id.number.toNat + 1 := by
  have hadd : id.next.number.toNat = (id.number.toNat + 1) % UInt64.size := UInt64.toNat_add _ _
  rw [hadd, Nat.mod_eq_of_lt h]

/-- As long as the numbers do not run out they are given in ascending order. -/
theorem toNat_of_mem_series {id other : OrderId} {count : Nat}
    (room : id.number.toNat + count ≤ UInt64.size) (h : other ∈ id.series count) :
    id.number.toNat ≤ other.number.toNat ∧ other.number.toNat < id.number.toNat + count := by
  induction count generalizing id with
  | zero => cases h
  | succ count ih =>
    rcases List.mem_cons.mp h with rfl | h
    · omega
    · have hpositive : 0 < count := by
        cases count with
        | zero => cases h
        | succ count => omega
      have hnext : id.next.number.toNat = id.number.toNat + 1 := toNat_next (by omega)
      have hother := ih (by omega) h
      omega

/-- A series has no id twice, as long as the numbers do not wrap. -/
theorem nodup_series {id : OrderId} {count : Nat} (room : id.number.toNat + count ≤ UInt64.size) :
    (id.series count).Nodup := by
  induction count generalizing id with
  | zero => exact List.nodup_nil
  | succ count ih =>
    cases count with
    | zero => simp [series]
    | succ count =>
      have hnext : id.next.number.toNat = id.number.toNat + 1 := toNat_next (by omega)
      refine List.nodup_cons.mpr ⟨fun h => ?_, ih (by omega)⟩
      have hid := toNat_of_mem_series (by omega) h
      omega

end OrderId

/-- Whether all stored orders have numbers below the next one. -/
def OrderBook.IssuedBefore (book : OrderBook) (next : OrderId) : Prop :=
  ∀ id, book.orders.contains id = true → id.number.toNat < next.number.toNat

/-! ## Storing several orders -/

namespace Strategy

/-- What is stored under an id stays, and else the first order with the id is stored. -/
theorem get?_storeAll (book : OrderBook) (orders : List Order) (id : OrderId) :
    (storeAll book orders).orders.get? id =
      (book.orders.get? id).or (orders.find? fun order => order.id = id) := by
  induction orders generalizing book with
  | nil => rw [storeAll, List.foldl_nil, List.find?_nil, Option.or_none]
  | cons order orders ih =>
    rw [storeAll, List.foldl_cons, ← storeAll, ih, OrderBook.get?_store, List.find?_cons]
    by_cases hid : id = order.id
    · subst hid
      cases book.orders.get? order.id <;> simp
    · have hne : order.id ≠ id := fun h => hid h.symm
      simp [hid, hne]

/-- What is stored afterwards was stored before or is one of the orders. -/
theorem contains_storeAll {book : OrderBook} {orders : List Order} {id : OrderId} :
    (storeAll book orders).orders.contains id = true ↔
      book.orders.contains id = true ∨ ∃ order ∈ orders, order.id = id := by
  rw [Table.contains, get?_storeAll, Option.isSome_or, Bool.or_eq_true, List.find?_isSome]
  simp only [Table.contains, decide_eq_true_eq]

/-- The order that is stored last is the last one of the list, if all of them are new. -/
theorem last_storeAll {book : OrderBook} {orders : List Order}
    (distinct : (orders.map (·.id)).Nodup)
    (absent : ∀ order ∈ orders, book.orders.contains order.id = false) :
    (storeAll book orders).last = (orders.getLast?.map (·.id)).or book.last := by
  induction orders generalizing book with
  | nil => rfl
  | cons order orders ih =>
    rw [List.map_cons, List.nodup_cons] at distinct
    obtain ⟨hnew, distinct⟩ := distinct
    obtain ⟨hfirst, absent⟩ := List.forall_mem_cons.mp absent
    have hlast : (book.store order).last = some order.id := by
      rw [OrderBook.store, hfirst]
      rfl
    -- The first order does not take the id of a later one.
    have hrest : ∀ other ∈ orders, (book.store order).orders.contains other.id = false := by
      intro other hother
      have hne : other.id ≠ order.id := by
        intro h
        rw [← h] at hnew
        exact hnew (List.mem_map_of_mem hother)
      rw [Table.contains, OrderBook.get?_store, if_neg hne]
      exact absent other hother
    rw [storeAll, List.foldl_cons, ← storeAll, ih distinct hrest, hlast, List.getLast?_cons]
    cases orders.getLast? <;> rfl

/-! ## Making orders and rules -/

/-- What a rule of a file is made into: a rule, and a chain of orders with one order for each
table. -/
structure RuleEntry.Makes (defaultRadius : Number.Single) (entry : RuleEntry) (rule : Rule)
    (chain : List Order) : Prop where
  name : rule.name = entry.name
  triggers : ∃ triggers,
    (entry.triggers.mapM fun conditions => conditions.mapM (·.build entry.name)) = .ok triggers ∧
      rule.triggers = triggers.map Trigger.mk
  /-- Each order does what its table says, apart from what follows. -/
  tables : List.Forall₂ (fun table order => ∃ intent,
    table.build entry.name defaultRadius = .ok intent ∧
      order.intent = { intent with followUp := order.intent.followUp })
    (entry.order :: entry.bundles) chain
  outermost : chain.head?.map (·.id) = some rule.order
  isChain : Order.IsChain chain

/-- The number of orders of a rule. -/
def RuleEntry.orderCount (entry : RuleEntry) : Nat := entry.bundles.length + 1

/-- The number of orders of several rules. -/
def orderCount : List RuleEntry → Nat
  | [] => 0
  | entry :: entries => entry.orderCount + orderCount entries

/-- The number of orders of a file, those that follow included. -/
def File.orderCount (file : File) : Nat := Strategy.orderCount file.rules

variable {defaultRadius : Number.Single}

/-- A chain that is built has an order for each table, linked in sequence, under the next ids. -/
theorem buildChain_eq_ok {rule : String} {entries : List OrderEntry} {next free : OrderId}
    {chain : List Order} (h : buildChain rule defaultRadius entries next = (.ok chain, free)) :
    List.Forall₂ (fun table order => ∃ intent, table.build rule defaultRadius = .ok intent ∧
        order.intent = { intent with followUp := order.intent.followUp }) entries chain ∧
      Order.IsChain chain ∧ chain.map (·.id) = next.series entries.length ∧
      free = next.advance entries.length := by
  induction entries generalizing next chain free with
  | nil =>
    obtain ⟨hok, rfl⟩ := Prod.mk.inj h
    obtain rfl := Except.ok.inj hok
    exact ⟨.nil, trivial, rfl, rfl⟩
  | cons entry entries ih =>
    unfold buildChain at h
    split at h
    · cases h
    · rename_i intent hintent
      split at h
      · cases h
      · rename_i inner free' hinner
        obtain ⟨hok, rfl⟩ := Prod.mk.inj h
        obtain rfl := Except.ok.inj hok
        -- The links come with the orders: each one is followed by the first order of the rest.
        obtain ⟨htables, hchain, hids, hfree⟩ := ih hinner
        refine ⟨.cons ⟨intent, hintent, rfl⟩ htables, ⟨rfl, hchain⟩, ?_, hfree⟩
        rw [List.map_cons, hids]
        rfl

/-- A rule that is built comes with its chain, stored from the last order to the first. -/
theorem RuleEntry.build_eq_ok {entry : RuleEntry} {next free : OrderId} {rule : Rule}
    {orders : List Order} (h : entry.build defaultRadius next = (.ok (rule, orders), free)) :
    ∃ chain, orders = chain.reverse ∧ entry.Makes defaultRadius rule chain ∧
      chain.map (·.id) = next.series entry.orderCount ∧ free = next.advance entry.orderCount := by
  unfold RuleEntry.build at h
  split at h
  · cases h
  · rename_i chain free' hchain
    split at h
    · cases h
    · rename_i triggers htriggers
      obtain ⟨hok, rfl⟩ := Prod.mk.inj h
      obtain ⟨rfl, rfl⟩ := Prod.mk.inj (Except.ok.inj hok)
      obtain ⟨htables, hlinked, hids, hfree⟩ := buildChain_eq_ok hchain
      refine ⟨chain, rfl, ⟨rfl, ⟨triggers, htriggers, rfl⟩, htables, ?_, hlinked⟩, hids, hfree⟩
      rw [← List.head?_map, hids]
      rfl

/-- Rules that are built come each with its chain, under the next ids one after the other. -/
theorem buildRules_eq_ok {entries : List RuleEntry} {next free : OrderId} {rules : List Rule}
    {orders : List Order}
    (h : buildRules defaultRadius entries next = (.ok (rules, orders), free)) :
    ∃ made : List (Rule × List Order), rules = made.map (·.1) ∧
      orders = made.flatMap (·.2.reverse) ∧
      List.Forall₂ (fun entry pair => entry.Makes defaultRadius pair.1 pair.2) entries made ∧
      (made.flatMap (·.2)).map (·.id) = next.series (orderCount entries) ∧
      free = next.advance (orderCount entries) := by
  induction entries generalizing next rules orders free with
  | nil =>
    obtain ⟨hok, rfl⟩ := Prod.mk.inj h
    obtain ⟨rfl, rfl⟩ := Prod.mk.inj (Except.ok.inj hok)
    exact ⟨[], rfl, rfl, .nil, rfl, rfl⟩
  | cons entry entries ih =>
    unfold buildRules at h
    split at h
    · cases h
    · rename_i rule first middle hentry
      split at h
      · cases h
      · rename_i others rest last hothers
        obtain ⟨hok, rfl⟩ := Prod.mk.inj h
        obtain ⟨rfl, rfl⟩ := Prod.mk.inj (Except.ok.inj hok)
        -- The rest starts at the id where this rule ends.
        obtain ⟨chain, rfl, hmakes, hids, rfl⟩ := RuleEntry.build_eq_ok hentry
        obtain ⟨made, rfl, rfl, hall, hrest, rfl⟩ := ih hothers
        refine ⟨(rule, chain) :: made, rfl, rfl, .cons hmakes hall, ?_, ?_⟩
        · rw [List.flatMap_cons, List.map_append, hids, hrest, orderCount, OrderId.series_add]
        · rw [orderCount, OrderId.advance_add]

/-- What has been made comes from a rule of the file. -/
theorem exists_makes {entries : List RuleEntry} {made : List (Rule × List Order)}
    (h : List.Forall₂ (fun entry pair => entry.Makes defaultRadius pair.1 pair.2) entries made)
    {pair : Rule × List Order} (hpair : pair ∈ made) :
    ∃ entry ∈ entries, entry.Makes defaultRadius pair.1 pair.2 := by
  induction h with
  | nil => cases hpair
  | cons makes _ ih =>
    rcases List.mem_cons.mp hpair with rfl | hpair
    · exact ⟨_, List.mem_cons_self, makes⟩
    · obtain ⟨entry, hentry, makes⟩ := ih hpair
      exact ⟨entry, List.mem_cons_of_mem _ hentry, makes⟩

/-! ## Files -/

/-- What a file leaves in the order book when it is made into a strategy. -/
structure Loaded (defaultRadius : Number.Single) (file : File) (book : OrderBook) (set : RuleSet)
    (after : OrderBook) (made : List (Rule × List Order)) : Prop where
  name : set.name = file.name
  /-- There is one rule for each rule of the file, in the order of the file. -/
  rules : set.rules = made.map (·.1)
  makes : List.Forall₂ (fun entry pair => entry.Makes defaultRadius pair.1 pair.2) file.rules made
  /-- What was stored before is as it was. -/
  kept : ∀ id order, book.orders.get? id = some order → after.orders.get? id = some order
  /-- The orders that have been made are stored, each under an id of its own that was free. -/
  distinct : ((made.flatMap (·.2)).map (·.id)).Nodup
  fresh : ∀ order ∈ made.flatMap (·.2),
    book.orders.contains order.id = false ∧ after.orders.get? order.id = some order
  /-- Nothing else is stored. -/
  only : ∀ id, after.orders.contains id = true →
    book.orders.contains id = true ∨ ∃ order ∈ made.flatMap (·.2), order.id = id
  /-- From the order of a rule the links lead through all orders of its chain and end there. -/
  leads : ∀ pair ∈ made, after.Leads (some pair.1.order) (pair.2.map (·.id))
  /-- The order that was stored last is that of the last rule. -/
  last : after.last = match made.getLast? with
    | some pair => some pair.1.order
    | none => book.last

/-- An order is found by its id in a list in which no two share one. -/
theorem find?_of_mem {orders : List Order} (distinct : (orders.map (·.id)).Nodup) {order : Order}
    (h : order ∈ orders) : (orders.find? fun other => other.id = order.id) = some order := by
  cases hfind : orders.find? fun other => other.id = order.id with
  | none => exact absurd (decide_eq_true rfl) (List.find?_eq_none.mp hfind order h)
  | some other =>
    have hid : other.id = order.id := by simpa using List.find?_some hfind
    rw [List.inj_on_of_nodup_map distinct (List.mem_of_find?_eq_some hfind) h hid]

/-- The order that is stored last is the outermost one of the last rule. -/
theorem getLast?_stored {made : List (Rule × List Order)}
    (outermost : ∀ pair ∈ made, pair.2.head?.map (·.id) = some pair.1.order) :
    (made.flatMap (·.2.reverse)).getLast?.map (·.id) = made.getLast?.map (·.1.order) := by
  rcases List.eq_nil_or_concat made with rfl | ⟨earlier, pair, rfl⟩
  · rfl
  · have hlast := outermost pair (by simp)
    obtain ⟨first, hfirst, hid⟩ := Option.map_eq_some_iff.mp hlast
    rw [List.concat_eq_append, List.flatMap_append, List.getLast?_append, List.flatMap_singleton,
      List.getLast?_reverse, hfirst, List.getLast?_concat]
    exact congrArg some hid

/-- A file that is made into a strategy has had all its rules made and their orders stored. -/
theorem File.buildRules_of_build {file : File} {book after : OrderBook} {next free : OrderId}
    {set : RuleSet} (h : file.build defaultRadius book next = (.ok (set, after), free)) :
    ∃ rules orders, buildRules defaultRadius file.rules next = (.ok (rules, orders), free) ∧
      set = ⟨file.name, rules⟩ ∧ after = storeAll book orders := by
  unfold File.build at h
  split at h
  · cases h
  · rename_i rules orders free' hrules
    obtain ⟨hok, rfl⟩ := Prod.mk.inj h
    obtain ⟨rfl, rfl⟩ := Prod.mk.inj (Except.ok.inj hok)
    exact ⟨rules, orders, hrules, rfl, rfl⟩

/-- The next numbers are free if only smaller ones have been issued. -/
theorem contains_of_mem_series {book : OrderBook} {next id : OrderId} {count : Nat}
    (issued : book.IssuedBefore next) (room : next.number.toNat + count ≤ UInt64.size)
    (h : id ∈ next.series count) : book.orders.contains id = false := by
  refine Bool.eq_false_iff.mpr fun hcontains => ?_
  have hbelow := issued id hcontains
  have habove := OrderId.toNat_of_mem_series room h
  omega

/-- The orders are stored from the inside out, which changes nothing but the one stored last. -/
theorem perm_stored (made : List (Rule × List Order)) :
    (made.flatMap (·.2.reverse)).Perm (made.flatMap (·.2)) :=
  List.Perm.flatMap_left made fun pair _ => List.reverse_perm pair.2

/-- The orders of a file have numbers that are free, no two of them the same, and each is stored under
its number. -/
theorem get?_storeAll_of_series {made : List (Rule × List Order)} {book : OrderBook}
    {next : OrderId} {count : Nat} (ids : (made.flatMap (·.2)).map (·.id) = next.series count)
    (issued : book.IssuedBefore next) (room : next.number.toNat + count ≤ UInt64.size)
    {order : Order} (h : order ∈ made.flatMap (·.2)) : book.orders.contains order.id = false ∧
      (storeAll book (made.flatMap (·.2.reverse))).orders.get? order.id = some order := by
  have distinct : ((made.flatMap (·.2)).map (·.id)).Nodup := ids ▸ OrderId.nodup_series room
  have absent := contains_of_mem_series issued room (ids ▸ List.mem_map_of_mem h)
  refine ⟨absent, ?_⟩
  rw [get?_storeAll, Table.contains_eq_false_iff.mp absent, Option.none_or]
  exact find?_of_mem (((perm_stored made).map (·.id)).nodup_iff.mpr distinct)
    ((perm_stored made).mem_iff.mpr h)

/-- **What a file is made into.** -/
theorem File.build_eq_ok {file : File} {book after : OrderBook} {next free : OrderId}
    {set : RuleSet} (h : file.build defaultRadius book next = (.ok (set, after), free))
    (issued : book.IssuedBefore next) (room : next.number.toNat + file.orderCount ≤ UInt64.size) :
    ∃ made, Loaded defaultRadius file book set after made := by
  obtain ⟨_, _, hrules, rfl, rfl⟩ := file.buildRules_of_build h
  obtain ⟨made, rfl, rfl, hmakes, hids, -⟩ := buildRules_eq_ok hrules
  have distinct : ((made.flatMap (·.2)).map (·.id)).Nodup := hids ▸ OrderId.nodup_series room
  have distinct' := ((perm_stored made).map (·.id)).nodup_iff.mpr distinct
  have hchains : ∀ pair ∈ made,
      pair.2.head?.map (·.id) = some pair.1.order ∧ Order.IsChain pair.2 := by
    intro pair hpair
    obtain ⟨entry, -, makes⟩ := exists_makes hmakes hpair
    exact ⟨makes.outermost, makes.isChain⟩
  -- The ids are new and distinct, so storing one order never meets another.
  have fresh : ∀ order ∈ made.flatMap (·.2), book.orders.contains order.id = false ∧
      (storeAll book (made.flatMap (·.2.reverse))).orders.get? order.id = some order :=
    fun _ horder => get?_storeAll_of_series hids issued room horder
  refine ⟨made, rfl, rfl, hmakes, ?_, distinct, fresh, ?_, ?_, ?_⟩
  · intro id order horder
    rw [get?_storeAll, horder, Option.some_or]
  · intro id hcontains
    rcases contains_storeAll.mp hcontains with hold | ⟨order, horder, hid⟩
    · exact .inl hold
    · exact .inr ⟨order, (perm_stored made).mem_iff.mp horder, hid⟩
  · intro pair hpair
    obtain ⟨houtermost, hchain⟩ := hchains pair hpair
    rw [← houtermost]
    refine OrderBook.leads_of_isChain hchain fun order horder => ?_
    have hstored := (fresh order (List.mem_flatMap.mpr ⟨pair, hpair, horder⟩)).2
    rw [OrderBook.intent?, hstored, Option.map_some]
  · rw [last_storeAll distinct' fun order horder =>
        (fresh order ((perm_stored made).mem_iff.mp horder)).1,
      getLast?_stored fun pair hpair => (hchains pair hpair).1]
    cases made.getLast? <;> rfl

/-! ## The numbers that a file uses up -/

/-- The number of orders of a chain that are made: those before the first one that cannot be. -/
def madeOfChain (rule : String) (defaultRadius : Number.Single) : List OrderEntry → Nat
  | [] => 0
  | entry :: bundles =>
    match entry.build rule defaultRadius with
    | .error _ => 0
    | .ok _ => madeOfChain rule defaultRadius bundles + 1

/-- The number of orders of several rules that are made: those up to the first rule that cannot
be. -/
def madeOfRules (defaultRadius : Number.Single) : List RuleEntry → Nat
  | [] => 0
  | entry :: entries =>
    madeOfChain entry.name defaultRadius (entry.order :: entry.bundles) +
      if (faultOf (entry.build defaultRadius .first).1).isNone then madeOfRules defaultRadius entries
      else 0

/-- A chain takes as many ids as it has orders made, whether or not it is built. -/
theorem next_buildChain (rule : String) (defaultRadius : Number.Single) (entries : List OrderEntry)
    (next : OrderId) :
    (buildChain rule defaultRadius entries next).2 =
      next.advance (madeOfChain rule defaultRadius entries) := by
  induction entries generalizing next with
  | nil => rfl
  | cons entry entries ih =>
    have h := ih next.next
    unfold buildChain madeOfChain
    cases entry.build rule defaultRadius with
    | error e => rfl
    | ok intent =>
      generalize buildChain rule defaultRadius entries next.next = made at h
      obtain ⟨_ | _, _⟩ := made <;> exact h

/-- A rule takes as many ids as it has orders made, whether or not it is built. -/
theorem next_ruleEntry_build (defaultRadius : Number.Single) (entry : RuleEntry) (next : OrderId) :
    (entry.build defaultRadius next).2 =
      next.advance (madeOfChain entry.name defaultRadius (entry.order :: entry.bundles)) := by
  rw [← next_buildChain]
  unfold RuleEntry.build
  generalize buildChain entry.name defaultRadius (entry.order :: entry.bundles) next = made
  generalize (entry.triggers.mapM fun conditions => conditions.mapM (·.build entry.name)) = triggers
  obtain ⟨_ | _, _⟩ := made <;> cases triggers <;> rfl

/-- Rules take as many ids as they have orders made, whether or not they are built. -/
theorem next_buildRules (defaultRadius : Number.Single) (entries : List RuleEntry) (next : OrderId) :
    (buildRules defaultRadius entries next).2 = next.advance (madeOfRules defaultRadius entries) := by
  induction entries generalizing next with
  | nil => rfl
  | cons entry entries ih =>
    have hnext := next_ruleEntry_build defaultRadius entry next
    unfold buildRules madeOfRules
    rw [faultOf_ruleEntry_build, ← faultOf_ruleEntry_build defaultRadius entry next,
      OrderId.advance_add, ← hnext]
    generalize entry.build defaultRadius next = made
    obtain ⟨_ | _, middle⟩ := made
    · rfl
    · have hrest := ih middle
      simp only
      generalize buildRules defaultRadius entries middle = rest at hrest
      obtain ⟨_ | _, _⟩ := rest <;> exact hrest

/-- Of a chain that is built all orders are made. -/
theorem madeOfChain_of_ok {rule : String} {entries : List OrderEntry} {next free : OrderId}
    {chain : List Order} (h : buildChain rule defaultRadius entries next = (.ok chain, free)) :
    madeOfChain rule defaultRadius entries = entries.length := by
  induction entries generalizing next chain free with
  | nil => rfl
  | cons entry entries ih =>
    unfold buildChain at h
    unfold madeOfChain
    cases hintent : entry.build rule defaultRadius with
    | error e =>
      rw [hintent] at h
      cases h
    | ok intent =>
      rw [hintent] at h
      -- The rest is built, or the whole chain would not be.
      cases hinner : buildChain rule defaultRadius entries next.next with
      | mk inner free' =>
        simp only [hinner] at h
        cases inner with
        | error e => cases h
        | ok inner => exact congrArg (· + 1) (ih hinner)

/-- If all rules can be made, all their orders are. -/
theorem madeOfRules_of_ok {entries : List RuleEntry} {next free : OrderId}
    {made : List Rule × List Order}
    (h : buildRules defaultRadius entries next = (.ok made, free)) :
    madeOfRules defaultRadius entries = orderCount entries := by
  induction entries generalizing next made free with
  | nil => rfl
  | cons entry entries ih =>
    unfold buildRules at h
    split at h
    · cases h
    · rename_i hentry
      split at h
      · cases h
      · rename_i hothers
        -- Whether a rule is refused does not depend on the ids that it would take.
        have hfault : faultOf (entry.build defaultRadius .first).1 = none := by
          rw [faultOf_ruleEntry_build, ← faultOf_ruleEntry_build defaultRadius entry next, hentry]
          rfl
        have hchain : madeOfChain entry.name defaultRadius (entry.order :: entry.bundles) =
            entry.orderCount := by
          unfold RuleEntry.build at hentry
          split at hentry
          · cases hentry
          · rename_i hchain
            exact madeOfChain_of_ok hchain
        rw [madeOfRules, hfault, hchain, Option.isNone_none, if_pos rfl, ih hothers, orderCount]

end Strategy

end Skirmish
