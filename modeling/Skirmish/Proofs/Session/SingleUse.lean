import Skirmish.Proofs.Session.Continuity
import Skirmish.Proofs.Session.IdlePhase
import Skirmish.Proofs.Session.LastCommand

/-!
# An idle agent runs one order

`idlePhase` collects what the idle phase of a tick does. Whose turn it is, and with which order, is
settled by the queue when the phase starts, and a turn touches its own agent only. An agent that is
commanded in its turn has used it up: it is busy from then on, and whatever happens to the session,
the phase runs nothing more for it until it is told that it has nothing to do, or is destroyed.
-/

namespace Skirmish.Session

open LoggedRun

variable {session : Session} {snapshot : Snapshot} {tag : UnitTag}

/-! ## Turns that are used up -/

/-- An agent on the roster for which an order has issued a command is busy after that. -/
theorem busy_run {id : OrderId} (registered : session.roster.contains tag = true)
    (commanded : (session.run snapshot id (some tag)).2.outbox ≠ session.outbox) :
    (session.run snapshot id (some tag)).2.roster.Busy tag := by
  rw [Roster.contains_eq_duty?] at registered
  obtain ⟨duty, hduty⟩ := Option.isSome_iff_exists.mp registered
  cases hid : session.book.orders.get? id with
  | none =>
    rw [run_of_missing hid] at commanded
    exact absurd rfl commanded
  | some order =>
    have performed := order.performed_perform (session.situation snapshot) session.dispatch (some tag)
    obtain ⟨target, htarget⟩ :=
      order.choices_some (session.situation snapshot) session.dispatch tag
    rw [run_of_stored hid] at commanded ⊢
    -- Without a target the outbox would be as it was.
    cases target with
    | none =>
      have houtbox := performed.outbox
      rw [htarget, Option.toList_none, List.map_nil, List.map_nil, List.append_nil] at houtbox
      exact absurd houtbox commanded
    | some target =>
      refine ⟨duty.takeUp order, ?_, rfl⟩
      have hafter := performed.duty? tag
      rw [htarget, Option.toList_some, List.map_singleton, List.map_singleton,
        if_pos (List.mem_singleton.mpr rfl)] at hafter
      exact hafter.trans (by rw [dispatch, hduty, Option.map_some])

/-- **An agent that is commanded in its turn is busy after it.** -/
theorem busy_turn {entry : UnitTag × OrderId} (registered : session.roster.contains entry.1 = true)
    (commanded : (session.turn snapshot entry).2.outbox ≠ session.outbox) :
    (session.turn snapshot entry).2.roster.Busy entry.1 := by
  refine busy_run ?_ commanded
  rwa [modifyAgent, Roster.contains_eq_duty?,
    Roster.duty?_modify_of_duty_eq Agent.duty_withoutFollowUp, ← Roster.contains_eq_duty?]

/-- Commands of a run for an agent are for this agent. -/
theorem isFor_of_mem_log : ∀ entry ∈ session.log snapshot, ∀ tag, entry.run.agent = some tag →
    ∀ command ∈ entry.commands, command.IsFor tag := by
  refine tick_induction (motive := fun _ log _ => ∀ entry ∈ log, ∀ tag,
    entry.run.agent = some tag → ∀ command ∈ entry.commands, command.IsFor tag) ?_ ?_ ?_ session
  · intro session roster _ entry hentry
    cases hentry
  · intro session id agent entry hentry tag hagent command hcommand
    obtain rfl := List.mem_singleton.mp hentry
    obtain rfl : agent = some tag := (session.agent_run snapshot id agent).symm.trans hagent
    obtain ⟨issued, hissued, hfor⟩ := session.issuedSince_run_some snapshot id tag
    exact hfor command (Option.mem_toList.mp (hissued ▸ hcommand))
  · intro before middle after first second h₁ h₂ entry hentry
    rcases List.mem_append.mp hentry with hentry | hentry
    · exact h₁ entry hentry
    · exact h₂ entry hentry

/-- Rules run their orders for nobody in particular. -/
theorem agent_of_mem_rules {run : Run} (h : run ∈ (session.playTick snapshot).rules) :
    run.agent = none := by
  have hrules : ∀ ids session, ∀ run ∈ (runRules snapshot ids session).1, run.agent = none := by
    intro ids
    induction ids with
    | nil => simp [runRules]
    | cons id ids ih =>
      intro session run hrun
      rcases List.mem_cons.mp hrun with rfl | hrun
      · exact session.agent_run snapshot id none
      · exact ih _ run hrun
  exact hrules _ _ run h

/-- An agent that a tick runs an order for is on the roster. -/
theorem contains_of_mem_log {entry : LoggedRun} (h : entry ∈ session.log snapshot)
    (hagent : entry.run.agent = some tag) : session.roster.contains tag = true := by
  have hrun : entry.run ∈ (session.playTick snapshot).idle ++ (session.playTick snapshot).rules := by
    rw [← log_runs]
    exact List.mem_map_of_mem h
  rcases List.mem_append.mp hrun with hidle | hrule
  · have hqueue : (some tag, entry.run.order) ∈
        session.roster.queue.map fun entry => (some entry.1, entry.2) := by
      rw [← idle_playTick session snapshot, ← hagent]
      exact List.mem_map_of_mem hidle
    obtain ⟨⟨t, id⟩, hmem, ht⟩ := List.mem_map.mp hqueue
    obtain ⟨agent, hget, -⟩ := Roster.mem_queue.mp hmem
    obtain rfl : t = tag := Option.some.inj (Prod.mk.inj ht).1
    exact Table.contains_of_get? hget
  · rw [agent_of_mem_rules hrule] at hagent
    cases hagent

/-- Whoever is on the roster and has been commanded is busy. -/
theorem Decided.busy {before after : Session} {log : List LoggedRun} (decided : Decided before log after tag)
    (registered : before.roster.contains tag = true) {id : OrderId}
    (commanded : id ∈ ordersFor log tag) : after.roster.Busy tag := by
  obtain ⟨duty, hduty⟩ : ∃ duty, after.roster.duty? tag = some duty := by
    rw [← Option.isSome_iff_exists, ← Roster.contains_eq_duty?, decided.contains, registered]
  have hlast := List.getLast?_eq_some_getLast (List.ne_nil_of_mem commanded)
  generalize (ordersFor log tag).getLast _ = last at hlast
  exact ⟨duty, hduty, (decided.last last hlast duty hduty).1⟩

/-- An agent that has been commanded in a tick is busy after it. -/
theorem busy_step (linked : Linked session.roster session.book) {entry : LoggedRun}
    (hentry : entry ∈ session.log snapshot) (hagent : entry.run.agent = some tag)
    (commanded : entry.commands ≠ []) : (session.step snapshot).session.roster.Busy tag := by
  obtain ⟨command, hcommand⟩ := List.exists_mem_of_ne_nil _ commanded
  have haddresses : command.addresses tag = true :=
    (isFor_of_mem_log entry hentry tag hagent command hcommand tag).mpr rfl
  have hmem : entry.run.order ∈ ordersFor (session.log snapshot) tag := by
    refine List.mem_map.mpr ⟨(entry.run.order, command), List.mem_filter.mpr ⟨?_, haddresses⟩, rfl⟩
    exact List.mem_flatMap.mpr ⟨entry, hentry, List.mem_map.mpr ⟨command, hcommand, rfl⟩⟩
  exact (Decided.step linked snapshot tag).busy (contains_of_mem_log hentry hagent) hmem

/-- The idle phase runs nothing for an agent that is busy. -/
theorem idleRunsFor_of_busy (busy : session.roster.Busy tag) (snapshot : Snapshot) :
    session.idleRunsFor snapshot tag = [] := by
  obtain ⟨agent, hagent, hidle⟩ := Roster.busy_iff.mp busy
  rw [idleRunsFor_eq, Roster.isIdleAt, hagent, Option.any_some, hidle]
  rfl

/-! ## The idle phase -/

/-- What the idle phase of a tick does. -/
structure IdlePhase (session : Session) (snapshot : Snapshot) : Prop where
  /-- The phase takes one turn for each entry of the queue. -/
  turns : ((session.playTick snapshot).idle, session.between snapshot) =
    runQueue snapshot session.roster.queue (session.synced snapshot)
  /-- The runs of the phase are those for the agents in the queue, with their orders. -/
  runs : (session.playTick snapshot).idle.map (fun run => (run.agent, run.order)) =
    session.roster.queue.map fun entry => (some entry.1, entry.2)
  ascending : (session.roster.queue.map (·.1)).Pairwise fun a b => Key.precedes a b = true
  /-- In the queue are the idle agents with the order that follows or else the one to fall back
  on. -/
  queue : ∀ tag id, (tag, id) ∈ session.roster.queue ↔ ∃ agent,
    session.roster.get? tag = some agent ∧ agent.isIdle = true ∧ agent.upcoming = some id
  /-- An id that nobody has stored is passed over. -/
  missing : ∀ (middle : Session) tag id, middle.book.orders.get? id = none →
    middle.turn snapshot (tag, id) =
      (⟨id, some tag, false⟩, middle.modifyAgent tag (·.withoutFollowUp))
  processed : (session.step snapshot).value.idleProcessed =
    session.roster.values.countP fun agent =>
      agent.isIdle && (agent.followUp.isSome || agent.fallback.isSome)
  /-- A turn leaves all other agents as they are. -/
  isolated : ∀ (middle : Session) (entry : UnitTag × OrderId) other, other ≠ entry.1 →
    (middle.turn snapshot entry).2.roster.get? other = middle.roster.get? other
  /-- The phase is the same if each agent is looked at when its turn comes. -/
  retested : ((session.playTick snapshot).idle, session.between snapshot) =
    retestIdle snapshot (session.synced snapshot).roster.keys (session.synced snapshot)
  /-- An agent that is commanded in its turn is busy after it. -/
  busy : ∀ (middle : Session) (entry : UnitTag × OrderId), middle.roster.contains entry.1 = true →
    (middle.turn snapshot entry).2.outbox ≠ middle.outbox →
      (middle.turn snapshot entry).2.roster.Busy entry.1
  /-- As long as no event frees an agent that was commanded in its turn, it stays busy and no idle
  phase runs an order for it. -/
  usedUp : ∀ entry ∈ session.log snapshot, ∀ tag, entry.run.agent = some tag →
    entry.commands ≠ [] → ∀ events : List Event, (∀ event ∈ events, ¬ event.Frees tag) →
      ((session.step snapshot).session.after events).roster.Busy tag ∧
        ∀ later, ((session.step snapshot).session.after events).idleRunsFor later tag = []

/-- **The idle phase of a tick.** Each idle agent with an order coming up runs this one order, which
touches no other agent, and an agent that was commanded has used its turn up. -/
theorem Reachable.idlePhase (reached : session.Reachable) (snapshot : Snapshot) :
    session.IdlePhase snapshot where
  turns := runAllIdle_synced session snapshot
  runs := session.idle_playTick snapshot
  ascending := session.roster.sorted_queue
  queue _ _ := Roster.mem_queue
  missing middle tag id hid := by
    have hpopped : (middle.modifyAgent tag (·.withoutFollowUp)).book.orders.get? id = none := hid
    exact run_of_missing hpopped snapshot (some tag)
  processed := by
    show (session.playTick snapshot).idle.length = _
    rw [← Roster.length_queue, ← List.length_map fun run : Run => (run.agent, run.order),
      idle_playTick, List.length_map]
  isolated _ _ _ hne := get?_turn_of_ne hne
  retested := (retestIdle_keys snapshot (session.synced snapshot)).symm
  busy _ _ registered commanded := busy_turn registered commanded
  usedUp := by
    intro entry hentry tag hagent commanded events hevents
    have busy := busy_step reached.linked hentry hagent commanded
    have hafter := busy_after busy hevents
    exact ⟨hafter, idleRunsFor_of_busy hafter⟩

/-- The worker of the small game is sent to the minerals in its turn, and has no further one. -/
theorem Reachable.idlePhase_rivals :
    SmallGame.rivals.roster.queue = [(⟨7⟩, ⟨1⟩)] ∧
      (∃ entry ∈ SmallGame.rivals.log SmallGame.snapshot,
        entry.run.agent = some ⟨7⟩ ∧ entry.commands ≠ []) ∧
      ((SmallGame.rivals.step SmallGame.snapshot).session.after
        [.tick SmallGame.snapshot, .created SmallGame.probe]).idleRunsFor SmallGame.snapshot ⟨7⟩ =
          [] := by
  have phase := SmallGame.reachable_rivals.idlePhase SmallGame.snapshot
  have hcommanded : ∃ entry ∈ SmallGame.rivals.log SmallGame.snapshot,
      entry.run.agent = some ⟨7⟩ ∧ entry.commands ≠ [] := by decide
  refine ⟨by decide, hcommanded, ?_⟩
  obtain ⟨entry, hentry, hagent, hcommands⟩ := hcommanded
  refine (phase.usedUp entry hentry ⟨7⟩ hagent hcommands _ ?_).2 SmallGame.snapshot
  simp [Event.Frees]

end Skirmish.Session
