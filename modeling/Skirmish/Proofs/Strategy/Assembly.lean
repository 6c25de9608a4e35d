import Skirmish.Strategy.Loading

/-!
# Orders of files are put together step by step

The orders of a file are written down as they are in the end. They can also be made like any other
order, from a pairing, and then be changed: the pairing gets its radius and its scope, the order may
be opened for several units, the order that follows is bundled with it, and at last it may be locked.
All changes but the lock are refused by an order that is locked, and a bundle also by an order that
something follows already.

`buildChainInTurn` makes the orders of a chain in this way. `buildChainInTurn_eq` says that it comes to
the same as `buildChain`: no change is refused, since an order is changed once and locked last.
-/

namespace Skirmish.Strategy

/-- Two steps in a row succeed only if each of them does. -/
theorem exists_ok_of_bind {α β : Type} {result : Except Error α} {next : α → Except Error β}
    {value : β} (h : (result >>= next) = .ok value) :
    ∃ first, result = .ok first ∧ next first = .ok value := by
  cases result with
  | error e => cases h
  | ok first => exact ⟨first, rfl, h⟩

namespace OrderEntry

variable {rule : String} {defaultRadius : Number.Single} {entry : OrderEntry} {intent : Intent}

/-- The order of an entry before anything follows it and before it is locked. -/
def draft (rule : String) (defaultRadius : Number.Single) (entry : OrderEntry) (id : OrderId) :
    Except Error Order := do
  let assignee ← entry.buildAssignee rule
  let action ← entry.buildAction rule
  let ability ← entry.buildAbility rule
  let paired ← Intent.pair assignee action ability
  let sized := paired.withRadius (entry.radius.getD defaultRadius)
  let placed := match entry.assigneeLocation with
    | some place => sized.withScope place (entry.assigneeRadius.getD defaultRadius)
    | none => sized
  let order := Order.issue id placed
  if entry.allowMultiple then order.setMultiplicity .allowMultiple else return order

/-- The order as its entry leaves it: locked, if the entry says so. -/
def finish (entry : OrderEntry) (order : Order) : Order := if entry.lock then order.lock else order

/-- A draft is what its entry says, but for the lock: to open it for several units is not refused. -/
theorem draft_eq (id : OrderId) : entry.draft rule defaultRadius id =
    (entry.build rule defaultRadius).map fun intent =>
      .issue id { intent with isLocked := false } := by
  unfold draft build
  cases entry.buildAssignee rule with
  | error e => rfl
  | ok assignee =>
    cases entry.buildAction rule with
    | error e => rfl
    | ok action =>
      cases entry.buildAbility rule with
      | error e => rfl
      | ok ability =>
        simp only [Intent.pair, bind, Except.bind]
        cases Intent.checkPairing assignee action with
        | error e => rfl
        | ok _ => cases entry.allowMultiple <;> cases entry.assigneeLocation <;> rfl

/-- An entry says whether its order is locked, and nothing of what follows it. -/
theorem followUp_of_build (h : entry.build rule defaultRadius = .ok intent) :
    intent.followUp = none ∧ intent.isLocked = entry.lock := by
  obtain ⟨assignee, -, h⟩ := exists_ok_of_bind h
  obtain ⟨action, -, h⟩ := exists_ok_of_bind h
  obtain ⟨ability, -, h⟩ := exists_ok_of_bind h
  obtain ⟨paired, hpaired, h⟩ := exists_ok_of_bind h
  cases h
  unfold Intent.pair at hpaired
  cases hcheck : Intent.checkPairing assignee action with
  | error e =>
    rw [hcheck] at hpaired
    cases hpaired
  | ok _ =>
    rw [hcheck] at hpaired
    cases hpaired
    exact ⟨rfl, rfl⟩

/-- The lock makes an order what its entry says. -/
theorem finish_issue (h : intent.isLocked = entry.lock) (id : OrderId)
    (followUp : Option OrderId) :
    entry.finish (.issue id { intent with isLocked := false, followUp }) =
      .issue id { intent with followUp } := by
  unfold finish
  cases hlock : entry.lock <;> rw [hlock] at h <;> simp [Order.lock, Order.issue, h]

end OrderEntry

/-- The order with a chain behind it. -/
def bundleChain (order : Order) (inner : List Order) : Except Error Order :=
  match inner.head? with
  | some next => order.bundle next.id
  | none => .ok order

/-- A chain is not refused by an order that is open and that nothing follows yet. -/
theorem bundleChain_eq_ok {order : Order} (isOpen : order.intent.isLocked = false)
    (alone : order.intent.followUp = none) (inner : List Order) :
    bundleChain order inner =
      .ok { order with intent := { order.intent with followUp := inner.head?.map (·.id) } } := by
  unfold bundleChain
  cases inner.head? with
  | none => rw [Option.map_none, ← alone]
  | some next => simp [Order.bundle, Order.revise, isOpen, alone, Except.map]

/-- The orders of a chain, from the outside in, and the next free number. Every order is drafted
before those that follow it are looked at; then it is bundled with them, and it is finished when
nothing is left to be changed. -/
def buildChainInTurn (rule : String) (defaultRadius : Number.Single) :
    List OrderEntry → OrderId → Except Error (List Order) × OrderId
  | [], next => (.ok [], next)
  | entry :: bundles, next =>
    match entry.draft rule defaultRadius next with
    | .error e => (.error e, next)
    | .ok order =>
      match buildChainInTurn rule defaultRadius bundles next.next with
      | (.error e, free) => (.error e, free)
      | (.ok inner, free) =>
        match bundleChain order inner with
        | .error e => (.error e, free)
        | .ok order => (.ok (entry.finish order :: inner), free)

/-- **Making a chain step by step is never refused, and comes to the same chain.** Every lock comes
after the changes that it would refuse. -/
theorem buildChainInTurn_eq (rule : String) (defaultRadius : Number.Single)
    (entries : List OrderEntry) (next : OrderId) :
    buildChainInTurn rule defaultRadius entries next =
      buildChain rule defaultRadius entries next := by
  induction entries generalizing next with
  | nil => rfl
  | cons entry entries ih =>
    unfold buildChainInTurn buildChain
    rw [OrderEntry.draft_eq]
    cases hbuild : entry.build rule defaultRadius with
    | error e => rfl
    | ok intent =>
      obtain ⟨halone, hlocked⟩ := OrderEntry.followUp_of_build hbuild
      simp only [Except.map, ih]
      rcases buildChain rule defaultRadius entries next.next with ⟨_ | inner, free⟩
      · rfl
      · have hbundle : bundleChain (.issue next { intent with isLocked := false }) inner =
            .ok (.issue next
              { intent with isLocked := false, followUp := inner.head?.map (·.id) }) :=
          bundleChain_eq_ok rfl halone inner
        simp only [hbundle, OrderEntry.finish_issue hlocked]

end Skirmish.Strategy
