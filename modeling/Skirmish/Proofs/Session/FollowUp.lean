import Mathlib.Data.List.Nodup
import Skirmish.Proofs.Order.Chain
import Skirmish.Proofs.Session.CrossReference
import Skirmish.Proofs.Session.IdlePhase

/-!
# A chain of orders is played link by link

An order that follows waits in the one slot that an agent has for it. The slot is emptied when the
agent takes its turn, and it is filled again only if the order that runs in this turn commands the
agent and is itself followed by an order. `follow_chain` says what this comes to when an agent takes
turn after turn and no rule interferes: the orders of the chain are run one by one and then the order
that the agent falls back on; and when a turn passes without a command, the rest of the chain is
lost.

## Shape of the proof

`round_agent` says what one round leaves in the slot, in terms of the order that was coming up and of
whether the agent was commanded. The other turns of the tick neither touch the agent nor command it,
so they are split off before and after its own turn. What a chain comes to is an induction over the
rounds.
-/

namespace Skirmish

namespace Session

variable {session : Session} {snapshot : Snapshot} {tag : UnitTag} {agent : Agent}

/-! ## The turn of an agent -/

/-- Whether a unit has been commanded since. -/
def commandedSince (after before : Session) (tag : UnitTag) : Bool :=
  (after.issuedSince before).any (·.addresses tag)

/-- What is in an empty slot of an agent after an order has been run for it. -/
theorem run_self (hagent : session.roster.get? tag = some agent) (empty : agent.followUp = none)
    (snapshot : Snapshot) (id : OrderId) :
    ∃ next, (session.run snapshot id (some tag)).2.roster.get? tag = some next ∧
      next.fallback = agent.fallback ∧
      next.followUp =
        if (session.run snapshot id (some tag)).2.commandedSince session tag then
          (session.book.intent? id).bind (·.followUp)
        else none := by
  cases hid : session.book.orders.get? id with
  | none =>
    refine ⟨agent, ?_, rfl, ?_⟩
    · rw [run_of_missing hid, hagent]
    · rw [commandedSince, issuedSince_run_of_missing hid]
      exact empty
  | some order =>
    obtain ⟨next, hnext, hfallback, hfollowUp⟩ :=
      order.get?_perform_self (session.situation snapshot) session.dispatch tag hagent
    refine ⟨next, ?_, hfallback, ?_⟩
    · rw [run_of_stored hid]
      exact hnext
    · obtain ⟨target, htarget⟩ :=
        order.choices_some (session.situation snapshot) session.dispatch tag
      -- The agent takes up what follows exactly if it was given a target.
      rw [hfollowUp, commandedSince, issuedSince_run hid, htarget, OrderBook.intent?, hid, empty]
      cases target with
      | none => rfl
      | some target =>
        have haddresses : (order.command (tag, target)).addresses tag = true :=
          order.addresses_command_iff.mpr rfl
        simp [haddresses]

/-- What is in the slot of an agent after its turn. -/
theorem turn_self (hagent : session.roster.get? tag = some agent) (snapshot : Snapshot)
    (id : OrderId) :
    ∃ next, (session.turn snapshot (tag, id)).2.roster.get? tag = some next ∧
      next.fallback = agent.fallback ∧
      next.followUp =
        if (session.turn snapshot (tag, id)).2.commandedSince session tag then
          (session.book.intent? id).bind (·.followUp)
        else none := by
  have hpopped : (session.modifyAgent tag (·.withoutFollowUp)).roster.get? tag =
      some agent.withoutFollowUp := by
    rw [modifyAgent, Table.get?_modify, if_pos rfl, hagent, Option.map_some]
  exact run_self hpopped rfl snapshot id

/-! ## The turns of the others -/

/-- Turns change no intent and no strategy. -/
theorem runQueue_keeps (keyed : session.book.Keyed) (snapshot : Snapshot)
    (queue : List (UnitTag × OrderId)) :
    (runQueue snapshot queue session).2.book.Keyed ∧
      (runQueue snapshot queue session).2.book.intent? = session.book.intent? ∧
      (runQueue snapshot queue session).2.strategy = session.strategy := by
  induction queue generalizing session with
  | nil => exact ⟨keyed, rfl, rfl⟩
  | cons entry queue ih =>
    have popped : (session.modifyAgent entry.1 (·.withoutFollowUp)).book.Keyed := keyed
    obtain ⟨turned, hintent, hstrategy⟩ := run_keeps popped snapshot entry.2 (some entry.1)
    obtain ⟨kept, hintents, hstrategies⟩ := ih turned
    exact ⟨kept, hintents.trans hintent, hstrategies.trans hstrategy⟩

/-- The turns of the first phase do not change which rules fire in the second one. -/
theorem firing_between (keyed : session.book.Keyed) (snapshot : Snapshot) :
    (session.between snapshot).firing = session.firing := by
  have hsynced : (session.synced snapshot).book.Keyed := keyed
  obtain ⟨-, -, hstrategy⟩ := runQueue_keeps hsynced snapshot session.roster.queue
  rw [between_eq]
  exact firing_congr hstrategy

/-- Nobody is commanded in the turns of others. -/
theorem commandedSince_runQueue {queue : List (UnitTag × OrderId)} (h : tag ∉ queue.map (·.1)) :
    (runQueue snapshot queue session).2.commandedSince session tag = false := by
  obtain ⟨issued, houtbox, hsub, hall⟩ := outbox_runQueue snapshot queue session
  rw [commandedSince, issuedSince, houtbox, List.drop_left, List.any_eq_false]
  intro command hcommand haddresses
  obtain ⟨entry, hentry, rfl⟩ := List.mem_map.mp hcommand
  have htag : tag = entry.1 := (hall entry hentry tag).mp haddresses
  exact h (htag ▸ hsub.subset (List.mem_map_of_mem hentry))

/-- Who is commanded in two stretches is commanded in either. -/
theorem commandedSince_trans (tag : UnitTag) {before middle after : Session}
    {first second : List Command}
    (h₁ : middle.outbox = before.outbox ++ first) (h₂ : after.outbox = middle.outbox ++ second) :
    after.commandedSince before tag =
      (middle.commandedSince before tag || after.commandedSince middle tag) := by
  rw [commandedSince, commandedSince, commandedSince, issuedSince, issuedSince, issuedSince, h₂,
    List.drop_left, h₁, List.drop_left, List.append_assoc, List.drop_left, List.any_append]

/-- What the turns of a queue leave in the slot of an agent that is in it. -/
theorem runQueue_self (keyed : session.book.Keyed) (snapshot : Snapshot)
    {queue : List (UnitTag × OrderId)} (nodup : (queue.map (·.1)).Nodup) {id : OrderId} (hmem : (tag, id) ∈ queue)
    (hagent : session.roster.get? tag = some agent) :
    ∃ next, (runQueue snapshot queue session).2.roster.get? tag = some next ∧
      next.fallback = agent.fallback ∧
      next.followUp =
        if (runQueue snapshot queue session).2.commandedSince session tag then
          (session.book.intent? id).bind (·.followUp)
        else none := by
  obtain ⟨earlier, later, rfl⟩ := List.append_of_mem hmem
  rw [List.map_append, List.map_cons, List.nodup_middle, List.nodup_cons, List.mem_append,
    not_or] at nodup
  obtain ⟨⟨hearlier, hlater⟩, -⟩ := nodup
  rw [runQueue_append, runQueue_cons]
  -- The turns before that of the agent leave it as it is.
  have hbefore : (runQueue snapshot earlier session).2.roster.get? tag = some agent :=
    (get?_runQueue_of_notMem hearlier).trans hagent
  have hsilent : (runQueue snapshot earlier session).2.commandedSince session tag = false :=
    commandedSince_runQueue hearlier
  obtain ⟨-, hintent, -⟩ := runQueue_keeps keyed snapshot earlier
  obtain ⟨first, hfirst, -⟩ := outbox_runQueue snapshot earlier session
  generalize (runQueue snapshot earlier session).2 = middle at *
  -- So do those after it.
  obtain ⟨next, hnext, hfallback, hfollowUp⟩ := turn_self hbefore snapshot id
  obtain ⟨command, hcommand, -⟩ := middle.outbox_turn snapshot (tag, id)
  generalize (middle.turn snapshot (tag, id)).2 = turned at *
  have hafter : (runQueue snapshot later turned).2.roster.get? tag = some next :=
    (get?_runQueue_of_notMem hlater).trans hnext
  have hquiet : (runQueue snapshot later turned).2.commandedSince turned tag = false :=
    commandedSince_runQueue hlater
  obtain ⟨last, hlast, -⟩ := outbox_runQueue snapshot later turned
  refine ⟨next, hafter, hfallback, ?_⟩
  have hturned : turned.outbox = session.outbox ++ (first.map (·.2) ++ command.toList) := by
    rw [hcommand, hfirst, List.append_assoc]
  rw [commandedSince_trans tag hturned hlast, commandedSince_trans tag hfirst hcommand, hsilent,
    hquiet, hfollowUp, hintent, Bool.false_or, Bool.or_false]

/-! ## Rounds -/

/-- One round of an agent: it is told that it has nothing to do, and a tick is played. -/
def round (session : Session) (tag : UnitTag) (snapshot : Snapshot) : Reply StepReport :=
  (session.becameIdle tag).session.step snapshot

/-- The orders that the idle phase of the round runs for the agent. -/
def roundRuns (session : Session) (tag : UnitTag) (snapshot : Snapshot) : List OrderId :=
  (session.becameIdle tag).session.idleRunsFor snapshot tag

/-- Whether the agent is commanded in the round. -/
def isCommandedIn (session : Session) (tag : UnitTag) (snapshot : Snapshot) : Bool :=
  (session.round tag snapshot).sent.any (·.addresses tag)

/-- The session after several rounds of an agent. -/
def afterRounds (session : Session) (tag : UnitTag) : List Snapshot → Session
  | [] => session
  | snapshot :: snapshots => (session.round tag snapshot).session.afterRounds tag snapshots

/-- For each of several rounds, whether the agent is commanded in it. -/
def commanded (session : Session) (tag : UnitTag) : List Snapshot → List Bool
  | [] => []
  | snapshot :: snapshots =>
    session.isCommandedIn tag snapshot :: (session.round tag snapshot).session.commanded tag snapshots

/-- After a round the session is still a reachable one. -/
theorem Reachable.round (reached : session.Reachable) (tag : UnitTag) (snapshot : Snapshot) :
    (session.round tag snapshot).session.Reachable :=
  (reached.reacted (.becameIdle tag)).reacted (.tick snapshot)

/-- What is left of a session when an agent is told that it has nothing to do. -/
theorem becameIdle_of_get? (hagent : session.roster.get? tag = some agent) :
    (session.becameIdle tag).session.roster.get? tag = some agent.rest ∧
      (session.becameIdle tag).session.book.intent? = session.book.intent? ∧
      (session.becameIdle tag).session.firing = session.firing := by
  unfold becameIdle
  rw [hagent]
  show (Session.unassign _ agent.current tag).roster.get? tag = _ ∧
    (Session.unassign _ agent.current tag).book.intent? = _ ∧
      (Session.unassign _ agent.current tag).firing = _
  rw [unassign_eq_unassignAll]
  refine ⟨?_, OrderBook.intent?_unassignAll _ _, firing_congr rfl⟩
  rw [modifyAgent, Table.get?_modify, if_pos rfl, hagent, Option.map_some]

/-- Without rules that fire, a tick is its idle phase. -/
theorem playTick_of_unruled (keyed : session.book.Keyed) (unruled : session.firing snapshot = []) :
    (session.playTick snapshot).session =
      (runQueue snapshot session.roster.queue (session.synced snapshot)).2 := by
  have hphase : (session.playTick snapshot).session =
      (runRules snapshot ((session.between snapshot).firing snapshot) (session.between snapshot)).2 :=
    rfl
  rw [hphase, firing_between keyed, unruled, between_eq]
  rfl

/-- What a tick without rules that fire runs for an idle agent, and what it leaves in its slot. -/
theorem step_agent (keyed : session.book.Keyed) (quiet : session.outbox = [])
    (unruled : session.firing snapshot = []) (hagent : session.roster.get? tag = some agent)
    (idle : agent.isIdle = true) :
    ∃ next, (session.step snapshot).session.roster.get? tag = some next ∧
      next.fallback = agent.fallback ∧
      next.followUp =
        if (session.step snapshot).sent.any (·.addresses tag) then
          (agent.upcoming.bind session.book.intent?).bind (·.followUp)
        else none := by
  obtain ⟨position, hsynced⟩ := Roster.get?_syncPositions hagent snapshot
  have hsynced : (session.synced snapshot).roster.get? tag = some { agent with position } := hsynced
  have htick := playTick_of_unruled keyed unruled
  have hsent : (session.step snapshot).sent.any (·.addresses tag) =
      (session.playTick snapshot).session.commandedSince (session.synced snapshot) tag := by
    rw [commandedSince, issuedSince, synced, quiet]
    rfl
  rw [hsent]
  show ∃ next, (session.playTick snapshot).session.roster.get? tag = some next ∧ _
  rw [htick]
  cases hupcoming : agent.upcoming with
  | none =>
    have hnot : tag ∉ session.roster.queue.map (·.1) := by
      intro hmem
      obtain ⟨⟨t, id⟩, hentry, rfl⟩ := List.mem_map.mp hmem
      obtain ⟨other, hother, -, hid⟩ := Roster.mem_queue.mp hentry
      obtain rfl := Option.some.inj (hagent.symm.trans hother)
      rw [hupcoming] at hid
      cases hid
    refine ⟨{ agent with position }, (get?_runQueue_of_notMem hnot).trans hsynced, rfl, ?_⟩
    -- Nothing is coming up, so nothing was in the slot either.
    have hempty : agent.followUp = none := by
      cases hfollowUp : agent.followUp with
      | none => rfl
      | some id => simp [Agent.upcoming, hfollowUp] at hupcoming
    simp [hempty]
  | some id =>
    have hmem : (tag, id) ∈ session.roster.queue :=
      Roster.mem_queue.mpr ⟨agent, hagent, idle, hupcoming⟩
    have keyed : (session.synced snapshot).book.Keyed := keyed
    have hself := runQueue_self keyed snapshot session.roster.nodup_queue hmem hsynced
    exact hself

/-- A round runs the order that the agent has coming up. -/
theorem roundRuns_eq (hagent : session.roster.get? tag = some agent) (snapshot : Snapshot) :
    session.roundRuns tag snapshot = agent.upcoming.toList := by
  obtain ⟨hrest, -, -⟩ := becameIdle_of_get? hagent
  rw [roundRuns, idleRunsFor_eq, Roster.isIdleAt, hrest, Roster.due?_of_get? hrest]
  rfl

/-- **What a round leaves in the slot of an agent**: the order that follows the one that was run if
the agent was commanded, and nothing if it was not. -/
theorem round_agent (reached : session.Reachable) (hagent : session.roster.get? tag = some agent)
    (unruled : session.firing snapshot = []) :
    ∃ next, (session.round tag snapshot).session.roster.get? tag = some next ∧
      next.fallback = agent.fallback ∧
      next.followUp =
        if session.isCommandedIn tag snapshot then
          (agent.upcoming.bind session.book.intent?).bind (·.followUp)
        else none := by
  obtain ⟨hrest, hintent, hfiring⟩ := becameIdle_of_get? hagent
  have resting : (session.becameIdle tag).session.Reachable := reached.reacted (.becameIdle tag)
  rw [← hfiring] at unruled
  have hstep := step_agent resting.linked.keyed resting.quiet unruled hrest rfl
  rw [hintent] at hstep
  exact hstep

/-- A round changes no intent, and rules fire after it as they did before. -/
theorem round_keeps (reached : session.Reachable) (hagent : session.roster.get? tag = some agent)
    (unruled : session.firing snapshot = []) :
    (session.round tag snapshot).session.book.intent? = session.book.intent? ∧
      (session.round tag snapshot).session.firing = session.firing := by
  obtain ⟨-, hintent, hfiring⟩ := becameIdle_of_get? hagent
  have resting : (session.becameIdle tag).session.Reachable := reached.reacted (.becameIdle tag)
  rw [← hfiring] at unruled
  have keyed : ((session.becameIdle tag).session.synced snapshot).book.Keyed := resting.linked.keyed
  have hphase := playTick_of_unruled resting.linked.keyed unruled
  obtain ⟨-, hintents, hstrategy⟩ :=
    runQueue_keeps keyed snapshot (session.becameIdle tag).session.roster.queue
  rw [← hphase] at hintents hstrategy
  have hround : (session.round tag snapshot).session.firing =
      (session.becameIdle tag).session.firing := firing_congr hstrategy
  exact ⟨hintents.trans hintent, hround.trans hfiring⟩

/-! ## Several rounds -/

/-- As long as an agent is commanded in every round, it goes from link to link, and then to the order
that it falls back on. -/
theorem roundRuns_of_commanded {chain : List OrderId} {earlier : List Snapshot}
    (reached : session.Reachable) (hagent : session.roster.get? tag = some agent)
    (leads : session.book.Leads agent.followUp chain)
    (unruled : ∀ s ∈ snapshot :: earlier, session.firing s = [])
    (commanded : ∀ heard ∈ session.commanded tag earlier, heard = true)
    (h : earlier.length ≤ chain.length) :
    (session.afterRounds tag earlier).roundRuns tag snapshot =
      match chain[earlier.length]? with
      | some id => [id]
      | none => agent.fallback.toList := by
  induction earlier generalizing session agent chain with
  | nil =>
    rw [afterRounds, roundRuns_eq hagent, Agent.upcoming]
    generalize agent.followUp = slot at leads
    cases leads with
    | done => simp
    | link stored rest => simp
  | cons first earlier ih =>
    have hfirst : session.firing first = [] := unruled first (by simp)
    obtain ⟨next, hnext, hfallback, hfollowUp⟩ := round_agent reached hagent hfirst
    obtain ⟨hintent, hfiring⟩ := round_keeps reached hagent hfirst
    obtain ⟨hheard, hothers⟩ := List.forall_mem_cons.mp commanded
    generalize hslot : agent.followUp = slot at leads
    cases leads with
    | done => simp at h
    | @link id intent ids stored rest =>
      -- The slot holds the next link now.
      have hlink : next.followUp = intent.followUp := by
        rw [hfollowUp, if_pos hheard, Agent.upcoming, hslot]
        exact congrArg (Option.bind · _) stored
      have hrest := rest.of_intent?_eq hintent
      rw [← hlink] at hrest
      have hunruled : ∀ s ∈ snapshot :: earlier,
          (session.round tag first).session.firing s = [] := by
        intro s hs
        rw [hfiring]
        refine unruled s ?_
        rcases List.mem_cons.mp hs with rfl | hs
        · exact List.mem_cons_self
        · exact List.mem_cons_of_mem _ (List.mem_cons_of_mem _ hs)
      have hlength := Nat.le_of_succ_le_succ h
      rw [afterRounds, ih (reached.round tag first) hnext hrest hunruled hothers hlength, hfallback]
      rfl

/-- After a round in which an agent was not commanded, its slot is empty. -/
theorem followUp_of_silent {earlier : List Snapshot} (reached : session.Reachable)
    (hagent : session.roster.get? tag = some agent) (unruled : ∀ s ∈ earlier, session.firing s = [])
    (silent : (session.commanded tag earlier).getLast? = some false) :
    ∃ next, (session.afterRounds tag earlier).roster.get? tag = some next ∧
      next.followUp = none ∧ next.fallback = agent.fallback := by
  induction earlier generalizing session agent with
  | nil => cases silent
  | cons first earlier ih =>
    obtain ⟨hfirst, hunruled⟩ := List.forall_mem_cons.mp unruled
    obtain ⟨next, hnext, hfallback, hfollowUp⟩ := round_agent reached hagent hfirst
    obtain ⟨-, hfiring⟩ := round_keeps reached hagent hfirst
    -- The last round decides; before it the induction goes through the session after the first one.
    cases earlier with
    | nil =>
      have hsilent : session.isCommandedIn tag first = false := Option.some.inj silent
      refine ⟨next, hnext, ?_, hfallback⟩
      rw [hfollowUp, hsilent]
      rfl
    | cons second earlier =>
      have hlast : ((session.round tag first).session.commanded tag (second :: earlier)).getLast? =
          some false := by
        rw [← silent]
        exact List.getLast?_cons_cons.symm
      rw [← hfallback]
      rw [← hfiring] at hunruled
      exact ih (reached.round tag first) hnext hunruled hlast

/-- **A chain of orders is played link by link.** Consider an agent that is told again and again that
it has nothing to do, with a tick after each time in which no rule fires. If it was commanded in all
rounds so far, the next round runs the next link of the chain that starts in its slot, and after the
last link the order that it falls back on. If it was not commanded in the last round, its slot is
empty and the next round runs the order that it falls back on. -/
theorem Reachable.follow_chain {chain : List OrderId} (reached : session.Reachable)
    (hagent : session.roster.get? tag = some agent)
    (leads : session.book.Leads agent.followUp chain) (earlier : List Snapshot)
    (snapshot : Snapshot) (unruled : ∀ s ∈ snapshot :: earlier, session.firing s = []) :
    ((∀ heard ∈ session.commanded tag earlier, heard = true) → earlier.length ≤ chain.length →
        (session.afterRounds tag earlier).roundRuns tag snapshot =
          match chain[earlier.length]? with
          | some id => [id]
          | none => agent.fallback.toList) ∧
      ((session.commanded tag earlier).getLast? = some false →
        ((session.afterRounds tag earlier).roster.get? tag).bind (·.followUp) = none ∧
          (session.afterRounds tag earlier).roundRuns tag snapshot = agent.fallback.toList) := by
  constructor
  · exact roundRuns_of_commanded reached hagent leads unruled
  · intro silent
    obtain ⟨next, hnext, hempty, hfallback⟩ :=
      followUp_of_silent reached hagent (List.forall_mem_cons.mp unruled).2 silent
    refine ⟨by rw [hnext, Option.bind_some, hempty], ?_⟩
    rw [roundRuns_eq hnext, Agent.upcoming, hempty, hfallback]
    rfl

end Session

/-- The session of the small game after a rule has sent the worker to build a pylon, which is followed
by a second pylon and then by a walk home. -/
def SmallGame.relay : Session := (Session.new .standard (.singleBase .origin)).after
  [.start snapshot, .storeOrder ⟨23⟩ (.unitTypeAt .protossProbe .smart .startLocation),
    .storeOrder ⟨22⟩ { pylon with followUp := some ⟨23⟩ },
    .storeOrder ⟨21⟩ { pylon with followUp := some ⟨22⟩ },
    .install ⟨"relay", [⟨"pylon", ⟨21⟩, [⟨[.ofKind ⟨.atLeast, .minerals⟩ 100]⟩]⟩]⟩,
    .tick { snapshot with minerals := 100 }]

/-- The worker builds the second pylon, walks home and returns to the minerals; but if another worker
is building a pylon, it returns to the minerals at once. -/
theorem Session.Reachable.follow_chain_relay :
    (SmallGame.relay.afterRounds ⟨7⟩ [SmallGame.snapshot]).roundRuns ⟨7⟩ SmallGame.snapshot =
        [⟨23⟩] ∧
      (SmallGame.relay.afterRounds ⟨7⟩ [SmallGame.building]).roundRuns ⟨7⟩ SmallGame.snapshot =
        [⟨1⟩] := by
  have reached : SmallGame.relay.Reachable := ⟨_, _, _, rfl⟩
  obtain ⟨agent, hagent, hslots⟩ : ∃ agent, SmallGame.relay.roster.get? ⟨7⟩ = some agent ∧
      (agent.followUp, agent.fallback) = (some ⟨22⟩, some ⟨1⟩) :=
    Option.map_eq_some_iff.mp (by decide)
  obtain ⟨hfollowUp, hfallback⟩ := Prod.mk.inj hslots
  have hpylon : SmallGame.relay.book.intent? ⟨22⟩ =
      some { SmallGame.pylon with followUp := some ⟨23⟩ } := by decide
  have hwalk : SmallGame.relay.book.intent? ⟨23⟩ =
      some (.unitTypeAt .protossProbe .smart .startLocation) := by decide
  have leads : SmallGame.relay.book.Leads agent.followUp [⟨22⟩, ⟨23⟩] := by
    rw [hfollowUp]
    exact .link hpylon (.link hwalk .done)
  have hfirst := (reached.follow_chain hagent leads [SmallGame.snapshot] SmallGame.snapshot
    (by decide)).1
  have hsecond := (reached.follow_chain hagent leads [SmallGame.building] SmallGame.snapshot
    (by decide)).2
  refine ⟨hfirst (by decide) (by decide), ?_⟩
  rw [hfallback] at hsecond
  exact (hsecond (by decide)).2

end Skirmish
