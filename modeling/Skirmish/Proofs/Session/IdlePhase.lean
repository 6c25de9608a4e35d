import Mathlib.Data.List.Basic
import Skirmish.Proofs.Order.OneAgent
import Skirmish.Proofs.Roster.Listing
import Skirmish.Proofs.Session.Tick

/-!
# The idle phase of a tick

In the first phase of a tick the idle agents take turns. What the phase does is settled before it
starts: `Roster.queue` lists the idle agents that have an order coming up, each with that order, and
the phase is one turn for each entry of the queue (`runAllIdle_eq_runQueue`).

That is so because agents are isolated from each other. A turn runs its order for one agent and
leaves every other agent as it is (`get?_turn_of_ne`), so nobody becomes idle or busy, or gets
another order, through the turn of someone else. For the same reason it makes no difference whether
the idle agents are listed when the phase starts or each agent is looked at when its turn comes
(`retestIdle_keys`).
-/

namespace Skirmish

/-! ## Whose turn it is -/

namespace Roster

variable {roster : Roster} {tag : UnitTag}

/-- The order that the agent with a tag runs if it is idle. -/
def due? (roster : Roster) (tag : UnitTag) : Option OrderId :=
  (roster.get? tag).bind (·.upcoming)

/-- Whether the agent with a tag is idle. -/
def isIdleAt (roster : Roster) (tag : UnitTag) : Bool := (roster.get? tag).any (·.isIdle)

/-- The idle agents that have an order coming up, each with this order, by ascending tag. -/
def queue (roster : Roster) : List (UnitTag × OrderId) :=
  roster.idle.filterMap fun tag => (roster.due? tag).map fun id => (tag, id)

theorem due?_of_get? {agent : Agent} (h : roster.get? tag = some agent) :
    roster.due? tag = agent.upcoming := by
  rw [due?, h, Option.bind_some]

/-- The queue has the idle agents with the order that comes up for them. -/
theorem mem_queue {id : OrderId} : (tag, id) ∈ roster.queue ↔
    ∃ agent, roster.get? tag = some agent ∧ agent.isIdle = true ∧ agent.upcoming = some id := by
  simp only [queue, List.mem_filterMap, Option.map_eq_some_iff, Prod.mk.injEq]
  constructor
  · rintro ⟨t, hidle, other, hdue, rfl, rfl⟩
    obtain ⟨agent, hagent, hidle⟩ := mem_tagsOf.mp hidle
    exact ⟨agent, hagent, hidle, (due?_of_get? hagent).symm.trans hdue⟩
  · rintro ⟨agent, hagent, hidle, hdue⟩
    exact ⟨tag, mem_tagsOf.mpr ⟨agent, hagent, hidle⟩, id, (due?_of_get? hagent).trans hdue, rfl,
      rfl⟩

/-- The queue goes through the idle agents for which an order is due. -/
theorem queue_tags (roster : Roster) :
    roster.queue.map (·.1) = roster.idle.filter fun tag => (roster.due? tag).isSome := by
  rw [queue, List.map_filterMap, ← List.filterMap_eq_filter]
  congr 1
  funext tag
  cases h : roster.due? tag <;> simp [Option.guard, h]

/-- Turns are taken by ascending tag. -/
theorem sorted_queue (roster : Roster) :
    (roster.queue.map (·.1)).Pairwise (fun a b => Key.precedes a b = true) := by
  rw [queue_tags]
  exact (roster.sorted_tagsOf _).filter _

theorem nodup_queue (roster : Roster) : (roster.queue.map (·.1)).Nodup :=
  roster.sorted_queue.imp Key.ne_of_precedes

/-- The idle agents are those that are found idle when all agents are gone through. -/
theorem filter_keys_isIdleAt (roster : Roster) :
    roster.keys.filter roster.isIdleAt = roster.idle := by
  rw [Table.keys, List.filter_map, idle, tagsOf]
  refine congrArg (List.map _) (List.filter_congr ?_)
  rintro ⟨tag, agent⟩ hentry
  rw [Function.comp_apply, isIdleAt, Table.mem_entries.mp hentry, Option.any_some]

theorem nodup_keys (roster : Roster) : roster.keys.Nodup := Table.nodup_keys roster

/-- The queue has an entry for each idle agent with an order that follows or one to fall back on. -/
theorem length_queue (roster : Roster) :
    roster.queue.length = roster.values.countP fun agent =>
      agent.isIdle && (agent.followUp.isSome || agent.fallback.isSome) := by
  rw [← List.length_map (·.1), queue_tags, ← List.countP_eq_length_filter, idle, tagsOf,
    List.countP_map, List.countP_filter, Table.values, List.countP_map]
  refine List.countP_congr ?_
  rintro ⟨tag, agent⟩ hentry
  have hdue := due?_of_get? (Table.mem_entries.mp hentry)
  cases hfollowUp : agent.followUp <;> cases hfallback : agent.fallback <;>
    simp [hdue, Agent.upcoming, hfollowUp, hfallback]

/-- An idle agent has one entry in the queue, if it has an order coming up, and others have none. -/
theorem queue_filter (roster : Roster) (tag : UnitTag) :
    roster.queue.filter (fun entry => entry.1 = tag) =
      if roster.isIdleAt tag then (roster.due? tag).toList.map fun id => (tag, id) else [] := by
  -- The induction needs any list without repetitions, of which the idle agents are one.
  have htags : ∀ tags : List UnitTag, tags.Nodup →
      ((tags.filterMap fun t => (roster.due? t).map fun id => (t, id)).filter
          fun entry => entry.1 = tag) =
        if tag ∈ tags then (roster.due? tag).toList.map fun id => (tag, id) else [] := by
    intro tags nodup
    induction tags with
    | nil => rfl
    | cons t tags ih =>
      obtain ⟨hnew, nodup⟩ := List.nodup_cons.mp nodup
      by_cases ht : t = tag
      · subst ht
        cases hdue : roster.due? t <;> simp [hdue, ih nodup, hnew]
      · have ht' : tag ≠ t := fun h => ht h.symm
        cases hdue : roster.due? t <;> simp [hdue, ih nodup, ht, ht']
  have hidle : tag ∈ roster.idle ↔ roster.isIdleAt tag = true := by
    rw [idle, mem_tagsOf, isIdleAt, Option.any_eq_true]
  have nodup : roster.idle.Nodup := roster.nodup_tagsOf _
  rw [queue, htags roster.idle nodup]
  simp only [hidle]

/-- Bringing the positions up to date makes nobody idle or busy. -/
theorem idle_syncPositions (roster : Roster) (snapshot : Snapshot) :
    (roster.syncPositions snapshot).idle = roster.idle :=
  tagsOf_syncPositions snapshot fun _ _ => rfl

/-- Bringing the positions up to date changes no order that is due. -/
theorem due?_syncPositions (roster : Roster) (snapshot : Snapshot) :
    (roster.syncPositions snapshot).due? = roster.due? := by
  rw [syncPositions]
  induction snapshot.ownUnits generalizing roster with
  | nil => rfl
  | cons unit units ih =>
    rw [List.foldl_cons, ih]
    funext tag
    rw [due?, due?, Table.get?_modify]
    split
    · rename_i htag
      rw [htag]
      cases roster.get? unit.tag <;> rfl
    · rfl

/-- Moving agents changes nobody's turn. -/
theorem queue_syncPositions (roster : Roster) (snapshot : Snapshot) :
    (roster.syncPositions snapshot).queue = roster.queue := by
  rw [queue, idle_syncPositions, due?_syncPositions, queue]

end Roster

namespace Session

variable {session : Session} {snapshot : Snapshot} {tag other : UnitTag}

/-! ## One turn -/

/-- The turn of an agent: what follows for it is used up, and then its order runs for it alone. -/
def turn (session : Session) (snapshot : Snapshot) (entry : UnitTag × OrderId) : Run × Session :=
  (session.modifyAgent entry.1 (·.withoutFollowUp)).run snapshot entry.2 (some entry.1)

theorem order_run (session : Session) (snapshot : Snapshot) (id : OrderId)
    (agent : Option UnitTag) : (session.run snapshot id agent).1.order = id := by
  unfold run
  cases session.book.orders.get? id <;> rfl

theorem agent_run (session : Session) (snapshot : Snapshot) (id : OrderId)
    (agent : Option UnitTag) : (session.run snapshot id agent).1.agent = agent := by
  unfold run
  cases session.book.orders.get? id <;> rfl

/-- **Running an order for one agent leaves every other agent as it is.** -/
theorem get?_run_of_ne (h : other ≠ tag) (id : OrderId) :
    (session.run snapshot id (some tag)).2.roster.get? other = session.roster.get? other := by
  cases hid : session.book.orders.get? id with
  | none => rw [run_of_missing hid]
  | some order =>
    rw [run_of_stored hid]
    exact order.get?_perform_of_ne _ _ _ h

/-- The turn of an agent leaves every other agent as it is. -/
theorem get?_turn_of_ne {entry : UnitTag × OrderId} (h : other ≠ entry.1) :
    (session.turn snapshot entry).2.roster.get? other = session.roster.get? other := by
  rw [turn, get?_run_of_ne h, modifyAgent, Table.get?_modify, if_neg h]

/-- Run for one agent, an order issues at most one command, which is for that agent. -/
theorem issuedSince_run_some (session : Session) (snapshot : Snapshot) (id : OrderId)
    (tag : UnitTag) : ∃ command : Option Command,
      (session.run snapshot id (some tag)).2.issuedSince session = command.toList ∧
        ∀ c ∈ command, c.IsFor tag := by
  cases hid : session.book.orders.get? id with
  | none => exact ⟨none, issuedSince_run_of_missing hid snapshot _, by simp⟩
  | some order =>
    obtain ⟨target, htarget⟩ :=
      order.choices_some (session.situation snapshot) session.dispatch tag
    refine ⟨target.map fun target => order.command (tag, target), ?_, ?_⟩
    · rw [issuedSince_run hid, htarget, List.map_map, Option.toList_map]
      rfl
    · intro command hcommand
      obtain ⟨target, -, rfl⟩ := Option.map_eq_some_iff.mp hcommand
      exact order.isFor_command (tag, target)

/-- The turn of an agent sends at most one command, which is for that agent. -/
theorem outbox_turn (session : Session) (snapshot : Snapshot) (entry : UnitTag × OrderId) :
    ∃ command : Option Command,
      (session.turn snapshot entry).2.outbox = session.outbox ++ command.toList ∧
        ∀ c ∈ command, c.IsFor entry.1 := by
  obtain ⟨command, hissued, hfor⟩ := (session.modifyAgent entry.1 (·.withoutFollowUp))
    |>.issuedSince_run_some snapshot entry.2 entry.1
  refine ⟨command, ?_, hfor⟩
  rw [turn, outbox_run, hissued]
  rfl

/-- An idle agent takes its turn if it has an order coming up. -/
theorem runIdle_eq (session : Session) (snapshot : Snapshot) (tag : UnitTag) :
    session.runIdle snapshot tag =
      match session.roster.due? tag with
      | none => ([], session)
      | some id =>
        ([(session.turn snapshot (tag, id)).1], (session.turn snapshot (tag, id)).2) := by
  unfold runIdle Roster.due?
  cases session.roster.get? tag with
  | none => rfl
  | some agent => cases h : agent.upcoming <;> simp [turn, h]

/-- Running what is due for an agent leaves every other agent as it is. -/
theorem get?_runIdle_of_ne (h : other ≠ tag) :
    (session.runIdle snapshot tag).2.roster.get? other = session.roster.get? other := by
  rw [runIdle_eq]
  split
  · rfl
  · exact get?_turn_of_ne h

/-! ## All turns -/

theorem runAllIdle_cons (snapshot : Snapshot) (tag : UnitTag) (tags : List UnitTag)
    (session : Session) :
    runAllIdle snapshot (tag :: tags) session =
      ((session.runIdle snapshot tag).1 ++
          (runAllIdle snapshot tags (session.runIdle snapshot tag).2).1,
        (runAllIdle snapshot tags (session.runIdle snapshot tag).2).2) := rfl

/-- Several turns, one after the other. -/
def runQueue (snapshot : Snapshot) :
    List (UnitTag × OrderId) → Session → List Run × Session
  | [], session => ([], session)
  | entry :: queue, session =>
    let (run, session) := session.turn snapshot entry
    let (runs, session) := runQueue snapshot queue session
    (run :: runs, session)

theorem runQueue_cons (snapshot : Snapshot) (entry : UnitTag × OrderId)
    (queue : List (UnitTag × OrderId)) (session : Session) :
    runQueue snapshot (entry :: queue) session =
      ((session.turn snapshot entry).1 ::
          (runQueue snapshot queue (session.turn snapshot entry).2).1,
        (runQueue snapshot queue (session.turn snapshot entry).2).2) := rfl

/-- The runs of a queue are for its agents, with their orders, in its order. -/
theorem runQueue_runs (snapshot : Snapshot) (queue : List (UnitTag × OrderId))
    (session : Session) :
    (runQueue snapshot queue session).1.map (fun run => (run.agent, run.order)) =
      queue.map fun entry => (some entry.1, entry.2) := by
  induction queue generalizing session with
  | nil => rfl
  | cons entry queue ih =>
    simp only [runQueue_cons, List.map_cons, ih, turn, order_run, agent_run]

/-- The queue leaves an agent that is not in it as it is. -/
theorem get?_runQueue_of_notMem {queue : List (UnitTag × OrderId)}
    (h : other ∉ queue.map (·.1)) :
    (runQueue snapshot queue session).2.roster.get? other = session.roster.get? other := by
  induction queue generalizing session with
  | nil => rfl
  | cons entry queue ih =>
    rw [List.map_cons, List.mem_cons, not_or] at h
    rw [runQueue_cons, ih h.2, get?_turn_of_ne h.1]

/-- Turns issue commands for the agents of the queue, for each of them one at most. -/
theorem outbox_runQueue (snapshot : Snapshot) (queue : List (UnitTag × OrderId))
    (session : Session) : ∃ issued : List (UnitTag × Command),
      (runQueue snapshot queue session).2.outbox = session.outbox ++ issued.map (·.2) ∧
        (issued.map (·.1)).Sublist (queue.map (·.1)) ∧ ∀ entry ∈ issued, entry.2.IsFor entry.1 := by
  induction queue generalizing session with
  | nil => exact ⟨[], (List.append_nil _).symm, List.Sublist.refl _, by simp⟩
  | cons entry queue ih =>
    obtain ⟨command, hturn, hfor⟩ := session.outbox_turn snapshot entry
    obtain ⟨issued, hqueue, hsub, hall⟩ := ih (session.turn snapshot entry).2
    cases command with
    | none =>
      refine ⟨issued, ?_, hsub.cons _, hall⟩
      rw [runQueue_cons, hqueue, hturn, Option.toList_none, List.append_nil]
    | some command =>
      refine ⟨(entry.1, command) :: issued, ?_, hsub.cons_cons _, ?_⟩
      · rw [runQueue_cons, hqueue, hturn, Option.toList_some, List.append_assoc]
        rfl
      · exact List.forall_mem_cons.mpr ⟨hfor command rfl, hall⟩

/-- Two queues one after the other are run one after the other. -/
theorem runQueue_append (snapshot : Snapshot) (first second : List (UnitTag × OrderId))
    (session : Session) :
    runQueue snapshot (first ++ second) session =
      ((runQueue snapshot first session).1 ++
          (runQueue snapshot second (runQueue snapshot first session).2).1,
        (runQueue snapshot second (runQueue snapshot first session).2).2) := by
  induction first generalizing session with
  | nil => rfl
  | cons entry first ih => simp only [List.cons_append, runQueue_cons, ih]

/-- A turn changes nothing that is due for those that come after it. -/
theorem due?_turn {tags : List UnitTag} (h : tag ∉ tags) (id : OrderId) :
    (tags.filterMap fun t =>
        ((session.turn snapshot (tag, id)).2.roster.due? t).map fun id => (t, id)) =
      tags.filterMap fun t => (session.roster.due? t).map fun id => (t, id) := by
  refine List.filterMap_congr fun t ht => ?_
  have hne : t ≠ tag := fun htag => h (htag ▸ ht)
  rw [Roster.due?, Roster.due?, get?_turn_of_ne hne]

/-- **Each idle agent runs the order that it had coming up when the phase started.** -/
theorem runAllIdle_eq_runQueue (snapshot : Snapshot) {tags : List UnitTag} (nodup : tags.Nodup)
    (session : Session) :
    runAllIdle snapshot tags session =
      runQueue snapshot
        (tags.filterMap fun tag => (session.roster.due? tag).map fun id => (tag, id)) session := by
  induction tags generalizing session with
  | nil => rfl
  | cons tag tags ih =>
    obtain ⟨hnew, nodup⟩ := List.nodup_cons.mp nodup
    rw [runAllIdle_cons, runIdle_eq, List.filterMap_cons]
    cases hid : session.roster.due? tag with
    | none => simp only [Option.map_none, List.nil_append, ih nodup]
    | some id =>
      simp only [Option.map_some, List.singleton_append, runQueue_cons, ih nodup, due?_turn hnew]

/-- Run the orders of several agents, looking at each one when its turn comes. -/
def retestIdle (snapshot : Snapshot) : List UnitTag → Session → List Run × Session
  | [], session => ([], session)
  | tag :: tags, session =>
    if session.roster.isIdleAt tag then
      let (runs, session) := session.runIdle snapshot tag
      let (others, session) := retestIdle snapshot tags session
      (runs ++ others, session)
    else retestIdle snapshot tags session

/-- An agent that is still idle when its turn comes is run. -/
theorem retestIdle_cons_of_idle (h : session.roster.isIdleAt tag = true) (tags : List UnitTag) :
    retestIdle snapshot (tag :: tags) session =
      ((session.runIdle snapshot tag).1 ++
          (retestIdle snapshot tags (session.runIdle snapshot tag).2).1,
        (retestIdle snapshot tags (session.runIdle snapshot tag).2).2) := by
  rw [retestIdle, if_pos h]

/-- To test again before each turn is to test all agents at the start. -/
theorem retestIdle_eq (snapshot : Snapshot) {tags : List UnitTag} (nodup : tags.Nodup)
    (session : Session) :
    retestIdle snapshot tags session =
      runAllIdle snapshot (tags.filter session.roster.isIdleAt) session := by
  induction tags generalizing session with
  | nil => rfl
  | cons tag tags ih =>
    obtain ⟨hnew, nodup⟩ := List.nodup_cons.mp nodup
    by_cases hidle : session.roster.isIdleAt tag = true
    · -- Those that come later are as idle after the turn as they were before it.
      have hrest : tags.filter (session.runIdle snapshot tag).2.roster.isIdleAt =
          tags.filter session.roster.isIdleAt := by
        refine List.filter_congr fun t ht => ?_
        have hne : t ≠ tag := fun htag => hnew (htag ▸ ht)
        rw [Roster.isIdleAt, Roster.isIdleAt, get?_runIdle_of_ne hne]
      rw [List.filter_cons_of_pos hidle, runAllIdle_cons, retestIdle_cons_of_idle hidle, ih nodup,
        hrest]
    · rw [List.filter_cons_of_neg hidle, retestIdle, if_neg hidle, ih nodup]

/-- **Listing the idle agents at the start is the same as looking at every agent at its turn.** -/
theorem retestIdle_keys (snapshot : Snapshot) (session : Session) :
    retestIdle snapshot session.roster.keys session =
      runAllIdle snapshot session.roster.idle session := by
  rw [retestIdle_eq snapshot session.roster.nodup_keys, Roster.filter_keys_isIdleAt]

/-! ## The phase in a tick -/

/-- With positions brought up to date, running all idle agents is running the queue. -/
theorem runAllIdle_synced (session : Session) (snapshot : Snapshot) :
    runAllIdle snapshot (session.synced snapshot).roster.idle (session.synced snapshot) =
      runQueue snapshot session.roster.queue (session.synced snapshot) := by
  have nodup : (session.synced snapshot).roster.idle.Nodup := Roster.nodup_tagsOf _ _
  rw [runAllIdle_eq_runQueue snapshot nodup]
  exact congrArg (runQueue snapshot · _) (session.roster.queue_syncPositions snapshot)

/-- Between the two halves of a tick the queue has been run. -/
theorem between_eq (session : Session) (snapshot : Snapshot) :
    session.between snapshot =
      (runQueue snapshot session.roster.queue (session.synced snapshot)).2 :=
  congrArg Prod.snd (session.runAllIdle_synced snapshot)

/-- The runs of the phase are for the agents in the queue, with their orders, in its order. -/
theorem idle_playTick (session : Session) (snapshot : Snapshot) :
    (session.playTick snapshot).idle.map (fun run => (run.agent, run.order)) =
      session.roster.queue.map fun entry => (some entry.1, entry.2) := by
  rw [← runQueue_runs snapshot session.roster.queue (session.synced snapshot),
    ← runAllIdle_synced]
  rfl

/-- The orders that the idle phase of a tick runs for an agent. -/
def idleRunsFor (session : Session) (snapshot : Snapshot) (tag : UnitTag) : List OrderId :=
  ((session.playTick snapshot).idle.filter fun run => run.agent = some tag).map (·.order)

/-- **The idle phase runs one order for an agent that is idle, and none for an agent that is
not.** -/
theorem idleRunsFor_eq (session : Session) (snapshot : Snapshot) (tag : UnitTag) :
    session.idleRunsFor snapshot tag =
      if session.roster.isIdleAt tag then (session.roster.due? tag).toList else [] := by
  have hruns : session.idleRunsFor snapshot tag =
      (((session.playTick snapshot).idle.map fun run => (run.agent, run.order)).filter
        fun run => run.1 = some tag).map (·.2) := by
    rw [idleRunsFor, List.filter_map, List.map_map]
    rfl
  have hqueue : ((session.roster.queue.map fun entry => (some entry.1, entry.2)).filter
      fun run => run.1 = some tag).map (·.2) =
        (session.roster.queue.filter fun entry => entry.1 = tag).map (·.2) := by
    rw [List.filter_map, List.map_map]
    simp only [Function.comp_def, Option.some_inj]
  rw [hruns, idle_playTick, hqueue, Roster.queue_filter]
  split
  · rw [List.map_map]
    exact List.map_id _
  · rfl

end Session

end Skirmish
