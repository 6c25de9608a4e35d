import Skirmish.Proofs.Session.Intents
import Skirmish.Proofs.Session.Steady

/-!
# Roles hold throughout a game

Every agent on the roster has its role, and no two agents fall back on the same order
(`Session.Staffed`). This is so of every session that is reached before the numbers of orders run out
(`Counted.roles_agree`).

## Shape of the proof

An event can do one of two things. Either everybody keeps the role that they had, or one agent gets a
new one, together with an order that has just been made. `Staffed.of_changes` covers both. That the
new order is nobody else's comes from `Counted.hasRoom`: no stored order has its number, and whatever
an agent falls back on is stored.
-/

namespace Skirmish

/-! ## Tasks that are kept -/

namespace OrderBook.KeepsTasks

variable {before after : OrderBook}

theorem of_intents (h : ∀ id intent, before.intent? id = some intent →
    after.intent? id = some intent) : before.KeepsTasks after :=
  fun id intent hintent => ⟨intent, h id intent hintent, rfl, rfl⟩

theorem of_intent?_eq (h : after.intent? = before.intent?) : before.KeepsTasks after :=
  of_intents fun id intent hintent => by rw [h, hintent]

theorem refl (book : OrderBook) : book.KeepsTasks book := of_intent?_eq rfl

/-- A bundle changes nothing but what follows. -/
theorem attachBundle {outer : OrderId} {inner : Order}
    (h : before.attachBundle outer inner = .ok after) : before.KeepsTasks after := by
  obtain ⟨old, hold, rfl⟩ := attachBundle_eq h
  intro id intent hintent
  by_cases hid : id = outer
  · subst hid
    have hsame : old.intent = intent := by
      rw [intent?, hold] at hintent
      exact Option.some.inj hintent
    refine ⟨{ intent with followUp := some inner.id }, intent?_store ?_, rfl, rfl⟩
    rw [intent?, change, Table.get?_modify, if_pos rfl, hold, ← hsame]
    rfl
  · refine ⟨intent, intent?_store ?_, rfl, rfl⟩
    rw [intent?, change, Table.get?_modify, if_neg hid]
    exact hintent

end OrderBook.KeepsTasks

/-! ## Agents that change over to gas -/

namespace Agent

/-- Running orders does not change the role of an agent. -/
theorem steady_role : Steady role where
  position _ _ := rfl
  withoutFollowUp _ := rfl
  edit := role_edit
  takenUpBy := role_takenUpBy

/-- A miner that is sent to gas has its new role once it has an order to gather gas to fall back
on. -/
theorem HasRole.gatherGas {agent : Agent} {book later : OrderBook} (has : agent.HasRole book)
    (miner : agent.isMiner = true) {id : OrderId} {intent : Intent}
    (stored : later.intent? id = some intent) (assignee : intent.assignee = .fallback)
    (action : intent.action.kind = .harvestGasNear) : (agent.gatherGas id).HasRole later := by
  obtain ⟨hcan, -⟩ := (Bool.and_eq_true _ _).mp miner
  have hminerals : (agent.gatherGas id).can .mineralGatherer = false := by simp [Agent.gatherGas]
  have hgas : (agent.gatherGas id).can .gasGatherer = true := by simp [Agent.gatherGas]
  refine .of_worker (has.worker_iff.mp hcan) ?_ ?_ rfl stored assignee ?_
  · simp [Agent.gatherGas, hcan]
  · rw [hgas, hminerals]
    rfl
  · rw [hminerals, action]
    rfl

end Agent

namespace Session

/-- Whether every agent on the roster has its role, and no two fall back on the same order. -/
structure Staffed (session : Session) : Prop where
  hasRole : ∀ tag agent, session.roster.get? tag = some agent → agent.HasRole session.book
  apart : ∀ tag other agent agent' id, session.roster.get? tag = some agent →
    session.roster.get? other = some agent' → agent.fallback = some id →
    agent'.fallback = some id → tag = other

section Changes

variable {session later : Session} {tag : UnitTag} {agent : Agent}

theorem view?_role_of_get? {roster : Roster} (h : roster.get? tag = some agent) :
    roster.view? Agent.role tag = some agent.role := by
  rw [Roster.view?, h, Option.map_some]

/-- If an agent has kept its role, what it falls back on was stored before. -/
theorem Staffed.contains_fallback (staffed : session.Staffed) {id : OrderId}
    (hview : session.roster.view? Agent.role tag = some agent.role)
    (hfallback : agent.fallback = some id) : session.book.orders.contains id = true := by
  obtain ⟨old, hold, hrole⟩ := Option.map_eq_some_iff.mp hview
  refine (staffed.hasRole tag old hold).contains_fallback ?_
  exact (congrArg Role.fallback hrole).trans hfallback

/-- Everybody keeps their roles or leaves, up to one agent that gets a new role. What that one falls
back on has not been stored before. -/
theorem Staffed.of_changes (staffed : session.Staffed)
    (keeps : session.book.KeepsTasks later.book) (newest : UnitTag)
    (changes : ∀ tag agent, later.roster.get? tag = some agent →
      session.roster.view? Agent.role tag = some agent.role ∨
        tag = newest ∧ agent.HasRole later.book ∧
          ∀ id, agent.fallback = some id → session.book.orders.contains id = false) :
    later.Staffed := by
  constructor
  · intro tag agent hagent
    rcases changes tag agent hagent with hview | ⟨-, hhas, -⟩
    · obtain ⟨old, hold, hrole⟩ := Option.map_eq_some_iff.mp hview
      exact ((staffed.hasRole tag old hold).congr hrole.symm).mono keeps
    · exact hhas
  · -- The fallback of the new role was not stored before, while the old ones were.
    intro tag other agent agent' id hagent hagent' hfallback hfallback'
    rcases changes tag agent hagent with hview | ⟨hnewest, -, hfree⟩
    · rcases changes other agent' hagent' with hview' | ⟨-, -, hfree'⟩
      · obtain ⟨old, hold, hrole⟩ := Option.map_eq_some_iff.mp hview
        obtain ⟨old', hold', hrole'⟩ := Option.map_eq_some_iff.mp hview'
        exact staffed.apart tag other old old' id hold hold'
          ((congrArg Role.fallback hrole).trans hfallback)
          ((congrArg Role.fallback hrole').trans hfallback')
      · have hstored := staffed.contains_fallback hview hfallback
        rw [hfree' id hfallback'] at hstored
        cases hstored
    · rcases changes other agent' hagent' with hview' | ⟨hnewest', -, -⟩
      · have hstored := staffed.contains_fallback hview' hfallback'
        rw [hfree id hfallback] at hstored
        cases hstored
      · rw [hnewest, hnewest']

/-- Everybody keeps their roles. -/
theorem Staffed.of_view?_eq (staffed : session.Staffed)
    (keeps : session.book.KeepsTasks later.book)
    (h : later.roster.view? Agent.role = session.roster.view? Agent.role) : later.Staffed := by
  refine staffed.of_changes keeps ⟨0⟩ fun tag agent hagent => Or.inl ?_
  rw [← h]
  exact view?_role_of_get? hagent

/-- One agent gets a new role, and all others are left alone. -/
theorem Staffed.of_get?_eq (staffed : session.Staffed)
    (keeps : session.book.KeepsTasks later.book) (newest : UnitTag)
    (h : ∀ other, later.roster.get? other =
      if other = newest then some agent else session.roster.get? other)
    (has : agent.HasRole later.book)
    (free : ∀ id, agent.fallback = some id → session.book.orders.contains id = false) :
    later.Staffed := by
  refine staffed.of_changes keeps newest fun other agent' hagent' => ?_
  rw [h] at hagent'
  split at hagent'
  · rename_i hother
    obtain rfl := Option.some.inj hagent'
    exact Or.inr ⟨hother, has, free⟩
  · exact Or.inl (view?_role_of_get? hagent')

/-- Nothing changes that a role depends on. -/
theorem Staffed.of_eq (staffed : session.Staffed) (roster : later.roster = session.roster)
    (book : later.book = session.book) : later.Staffed := by
  refine staffed.of_view?_eq ?_ (congrArg _ roster)
  rw [book]
  exact .refl _

end Changes

variable {session : Session}

/-! ## New agents -/

/-- The order that is made next is stored with the intent that it is made with. -/
theorem intent?_make (room : session.HasRoom 1) (intent : Intent) :
    (session.make intent).2.book.intent? session.nextId = some intent :=
  OrderBook.intent?_store_self (room.free session.nextId (List.mem_singleton_self _))

/-- Recruiting gives the new agent its role, with an order of its own to fall back on. -/
theorem staffed_recruit {unit : UnitView} {agent : Agent} (staffed : session.Staffed)
    (new : session.roster.contains unit.tag = false) (role : agent.role = (Agent.ofUnit unit).role)
    (place : Place)
    (room : session.HasRoom (session.newWorkers (session.recruit unit agent place)).length) :
    (session.recruit unit agent place).Staffed := by
  have hcategory : agent.category = unit.category :=
    (congrArg Role.category role).trans (Agent.category_ofUnit unit)
  rw [length_newWorkers_recruit new hcategory] at room
  -- Only a worker gets an order to fall back on, under an id that has to be free.
  by_cases worker : unit.category = .worker
  · rw [if_pos worker] at room
    rw [recruit_of_worker new worker]
    have hstored := intent?_make room
      ((Intent.harvestMineralsNear place).withRadius session.config.defaultRadius)
    refine staffed.of_get?_eq (.of_intents fun _ _ => OrderBook.intent?_store) unit.tag
      (fun _ => Table.get?_insert) ?_ fun id hid => ?_
    · refine (Agent.hasRole_fallBackOn worker hstored rfl rfl).congr ?_
      exact congrArg (fun role : Role => { role with fallback := some session.nextId }) role
    · obtain rfl := Option.some.inj hid
      exact room.free session.nextId (List.mem_singleton_self _)
  · rw [recruit_of_other new worker]
    refine staffed.of_get?_eq (.refl _) unit.tag (fun _ => Table.get?_insert)
      ((Agent.hasRole_ofUnit worker _).congr role) fun id hid => ?_
    have hnone := (congrArg Role.fallback role).trans (Agent.fallback_ofUnit unit)
    cases hnone.symm.trans hid

/-- Welcoming units keeps everyone in their roles. -/
theorem staffed_welcomeAll (units : List UnitView) (staffed : session.Staffed)
    (room : session.HasRoom (session.newWorkers (units.foldl welcome session)).length) :
    (units.foldl welcome session).Staffed := by
  induction units generalizing session with
  | nil => exact staffed
  | cons unit units ih =>
    have hretains := (makes_welcomeAll units (session.welcome unit)).1
    rw [List.foldl_cons] at room ⊢
    rcases session.welcome_cases unit with hsame | ⟨new, hrecruit⟩
    · rw [hsame] at room ⊢
      exact ih staffed room
    · have hfirst := retains_recruit new (Agent.category_ofUnit unit) .startLocation
      have hmakes := makes_recruit new (Agent.category_ofUnit unit) .startLocation
      rw [hrecruit] at hretains room ⊢
      rw [length_newWorkers_trans hfirst hretains] at room
      exact ih (staffed_recruit staffed new rfl _ room.left) (hmakes.hasRoom room)

/-- A unit that was created keeps everyone in their roles. -/
theorem staffed_created (unit : UnitView) (staffed : session.Staffed)
    (room : session.HasRoom (session.newWorkers (session.created unit).session).length) :
    (session.created unit).session.Staffed := by
  rcases session.created_cases unit with
    ⟨-, hsame⟩ | ⟨-, ready, home, post, place, hready, new, hcreated⟩
  · rw [hsame]
    exact staffed
  · have hstaffed : ready.Staffed := by
      refine staffed.of_view?_eq ?_ (hready.view? fun agent => agent.role_lose (by decide))
      rw [hready.book]
      exact .refl _
    rw [hcreated, ← hready.newWorkers_eq] at room
    rw [hcreated]
    have hrole : { Agent.ofUnit unit with home, post }.role = (Agent.ofUnit unit).role := rfl
    exact (staffed_recruit hstaffed new hrole place (hready.hasRoom room)).of_eq rfl rfl

/-! ## Agents that are sent to gas -/

/-- Sending a miner to gas gives it the other role, with a new order to fall back on. -/
theorem staffed_sendToGas {site : UnitView} {tag : UnitTag} {agent : Agent}
    (staffed : session.Staffed) (hagent : session.roster.get? tag = some agent)
    (miner : agent.isMiner = true) (room : session.HasRoom 1) :
    (sendToGas site session tag).Staffed := by
  have hintent := intent?_sendToGas site session tag
  have hstored : (sendToGas site session tag).book.intent? session.nextId =
      some (session.gasIntent site) := by
    rw [hintent]
    exact intent?_make room _
  refine staffed.of_get?_eq (.of_intents fun id intent h => ?_) tag (fun other => ?_)
    ((staffed.hasRole tag agent hagent).gatherGas miner hstored rfl rfl) fun id hid => ?_
  · rw [hintent]
    exact OrderBook.intent?_store h
  · -- The agent is there, so the change concerns it and nobody else.
    rw [sendToGas, Table.get?_modify]
    split
    · rename_i hother
      rw [hother, hagent, Option.map_some]
    · rfl
  · obtain rfl := Option.some.inj hid
    exact room.free session.nextId (List.mem_singleton_self _)

/-- Sending several miners to gas keeps everyone in their roles. -/
theorem staffed_sendAllToGas (site : UnitView) {crew : List UnitTag} (nodup : crew.Nodup)
    (miners : ∀ tag ∈ crew, ∃ agent, session.roster.get? tag = some agent ∧ agent.isMiner = true)
    (staffed : session.Staffed) (room : session.HasRoom crew.length) :
    (crew.foldl (sendToGas site) session).Staffed := by
  induction crew generalizing session with
  | nil => exact staffed
  | cons first crew ih =>
    obtain ⟨hfirst, nodup⟩ := List.nodup_cons.mp nodup
    obtain ⟨⟨agent, hagent, miner⟩, miners⟩ := List.forall_mem_cons.mp miners
    rw [List.length_cons, Nat.add_comm] at room
    refine ih nodup (fun tag htag => ?_) (staffed_sendToGas staffed hagent miner room.left)
      ((makes_sendToGas site session first).hasRoom room)
    have hne : tag ≠ first := by
      rintro rfl
      exact hfirst htag
    obtain ⟨other, hother, hminer⟩ := miners tag htag
    exact ⟨other, (Table.get?_modify.trans (if_neg hne)).trans hother, hminer⟩

/-- A unit that was completed keeps everyone in their roles. -/
theorem staffed_completed (unit : UnitView) (staffed : session.Staffed)
    (room : session.HasRoom (session.movedWorkers (session.completed unit).session).length) :
    (session.completed unit).session.Staffed := by
  cases gas : unit.unitType.isGasStructure with
  | true =>
    rw [completed_of_isGasStructure gas] at room ⊢
    have hcrew := session.movedWorkers_gasCrew unit session.config.gasWorkersPerStructure.toNat
    have hsent := staffed_sendAllToGas unit (nodup_nearestSeveral _ _ _)
      (fun tag => get?_of_mem_gasCrew) staffed (hcrew.length_eq ▸ room)
    exact hsent.of_eq rfl rfl
  | false =>
    obtain ⟨layout, roster, outbox, hcompleted, hroster⟩ :=
      completed_of_not_isGasStructure gas session
    rw [hcompleted]
    rcases hroster with rfl | rfl
    · exact staffed.of_eq rfl rfl
    · exact staffed.of_view?_eq (.refl _)
        (Roster.view?_modify fun agent => agent.role_gain (by decide))

/-! ## All events -/

/-- A tick keeps everyone in their roles. -/
theorem staffed_step (snapshot : Snapshot) (keyed : session.book.Keyed)
    (staffed : session.Staffed) : (session.step snapshot).session.Staffed := by
  have hintent := (playTick_keeps keyed snapshot).2
  have hroles := view?_playTick Agent.steady_role session snapshot
  have hplayed : (session.playTick snapshot).session.Staffed :=
    staffed.of_view?_eq (.of_intent?_eq hintent) hroles
  exact hplayed.of_eq rfl rfl

/-- An agent that becomes idle keeps its role. -/
theorem staffed_becameIdle (tag : UnitTag) (staffed : session.Staffed) :
    (session.becameIdle tag).session.Staffed := by
  refine staffed.of_view?_eq (.of_intent?_eq (session.intent?_becameIdle tag).1) ?_
  unfold becameIdle
  split
  · rfl
  · rw [unassign_eq_unassignAll]
    exact Roster.view?_modify fun _ => rfl

/-- A unit that was destroyed leaves the others their roles. -/
theorem staffed_destroyed (unit : UnitView) (staffed : session.Staffed) :
    (session.destroyed unit).session.Staffed := by
  refine staffed.of_changes (.of_intent?_eq (session.intent?_destroyed unit).1) unit.tag ?_
  have hroster : (session.destroyed unit).session.roster = session.roster ∨
      (session.destroyed unit).session.roster = session.roster.erase unit.tag := by
    unfold destroyed
    split
    · exact Or.inl rfl
    · split
      · exact Or.inl rfl
      · exact Or.inr rfl
  intro tag agent hagent
  refine Or.inl (view?_role_of_get? ?_)
  -- Whoever is still on the roster was on it before, as the same agent.
  rcases hroster with hsame | herased
  · rw [← hsame, hagent]
  · rw [herased, Table.get?_erase] at hagent
    split at hagent
    · cases hagent
    · exact hagent

/-- **A callback leaves everybody with a role.** -/
theorem staffed_react (staffed : session.Staffed) (keyed : session.book.Keyed) {event : Event}
    (callback : event.IsCallback) (room : session.HasRoom (session.ordersMade event)) :
    (session.react event).Staffed := by
  cases event with
  | start snapshot => exact (staffed_welcomeAll snapshot.ownUnits staffed room).of_eq rfl rfl
  | tick snapshot => exact staffed_step snapshot keyed staffed
  | created unit => exact staffed_created unit staffed room
  | completed unit => exact staffed_completed unit staffed room
  | damaged snapshot unit =>
    rw [react, damaged_eq]
    exact staffed.of_eq rfl rfl
  | becameIdle tag => exact staffed_becameIdle tag staffed
  | destroyed unit => exact staffed_destroyed unit staffed
  | _ => exact absurd callback id

/-- Taking a strategy keeps everyone in their roles. -/
theorem Takes.staffed {after : Session} {count : Nat} (takes : session.Takes after count)
    (keyed : session.book.Keyed) (staffed : session.Staffed) : after.Staffed := by
  obtain ⟨-, hintents⟩ := takes.keeps keyed
  obtain ⟨strategy, orders, -, rfl⟩ := takes
  exact staffed.of_view?_eq (.of_intents hintents) rfl

/-- **Roles hold throughout a game.** However a session has been reached, every agent can do the work
of a worker exactly if it is one; a worker gathers either minerals or gas, and falls back on a stored
order to do so; others gather nothing and fall back on nothing; and no two agents fall back on the
same order. The numbers of orders must not run out for this, or an agent could be given the number
of an order that is stored already. -/
theorem Counted.roles_agree {made : Nat} (counted : session.Counted made)
    (room : made < UInt64.size) : session.Staffed := by
  induction counted with
  | new config layout => exact ⟨fun _ _ h => (nomatch h), fun _ _ _ _ _ h => (nomatch h)⟩
  | @react session made counted event given ih =>
    have staffed := ih (by omega)
    -- Callbacks make and move workers, the other events leave all roles as they are.
    by_cases callback : event.IsCallback
    · exact staffed_react staffed counted.keyed callback (counted.hasRoom room)
    · cases event with
      | install rules => exact (session.takes_install rules).staffed counted.keyed staffed
      | loadStrategy text => exact (session.takes_loadStrategy text).staffed counted.keyed staffed
      | loadOpening => exact session.takes_loadOpening.staffed counted.keyed staffed
      | storeLocation name location => exact staffed.of_eq rfl rfl
      | storeUnitType name unitType => exact staffed.of_eq rfl rfl
      | orderMade => exact staffed.of_eq rfl rfl
      | storeOrder id intent =>
        exact staffed.of_view?_eq (.of_intents fun _ _ => OrderBook.intent?_store) rfl
      | attachBundle outer id intent =>
        simp only [Session.react]
        split
        · rename_i book hbook
          exact staffed.of_view?_eq (.attachBundle hbook) rfl
        · exact staffed
      | _ => exact absurd trivial callback
  | relist counted id assigned ih =>
    refine (ih room).of_view?_eq (.of_intent?_eq ?_) rfl
    exact OrderBook.intent?_change fun _ _ => rfl

/-- When a gas structure is finished in the small game, the worker changes over from minerals to gas
and falls back on the order that is made for this. -/
theorem Counted.roles_agree_smallGame :
    let session := SmallGame.session.react (.completed SmallGame.assimilator)
    session.Counted 2 ∧ session.Staffed ∧
      (session.roster.get? ⟨7⟩).map (fun agent => (agent.category, gathering agent, agent.fallback)) =
        some (.worker, (false, true), some ⟨2⟩) := by
  have hcounted := counted_smallGame.react (.completed SmallGame.assimilator) trivial
  have hmade : SmallGame.session.ordersMade (.completed SmallGame.assimilator) = 1 := by decide
  rw [hmade] at hcounted
  exact ⟨hcounted, hcounted.roles_agree (by decide), by decide⟩

end Session

end Skirmish
