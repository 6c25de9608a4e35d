import Skirmish.Proofs.Session.FollowUp
import Skirmish.Proofs.Session.GasCrew

/-!
# Every command is accounted for

A callback decides on commands one after the other and sends them all at its end.
`commands_accounted` says for every callback which commands these are, that just they are sent, in
the order in which they were decided on, and that none is left over for the next callback.

For a tick they are read off its account. `Session.account` lists the turns of the idle agents and
then the rules that fire, each with a command for every unit that its order chooses. The log of the
tick, which looks at the outbox instead, is the same list (`log_eq_account`). How many units are
chosen depends on the order: none if it edits a group, at most one if it runs for an agent or for
units of a type, and any number if it is for agents with capabilities or in a group
(`LoggedRun.Exact`). From this the report of the tick is compared with what it sends
(`ExactReport`).
-/

namespace Skirmish

/-! ## How many units a run commands -/

namespace Intent

/-- Whether the order puts agents into a group or takes them out of it. -/
def editsGroup (intent : Intent) : Bool := intent.action.kind = .groupEdit

/-- Whether the order is for all agents with some capabilities or in a group. -/
def isForMany (intent : Intent) : Bool :=
  intent.assignee.kind = .flags || intent.assignee.kind = .group

/-- An order that is not for many addresses one unit at most. -/
theorem length_assignments_le_one {intent : Intent} (h : intent.isForMany = false)
    (situation : Situation) (dispatch : Dispatch) :
    (intent.assignments situation dispatch).1.length ≤ 1 := by
  unfold assignments
  cases hassignee : intent.assignee with
  | fallback => exact Nat.zero_le 1
  | unitType type => exact Option.length_toList_le
  | flags capabilities => simp [isForMany, hassignee, Assignee.kind] at h
  | group name => simp [isForMany, hassignee, Assignee.kind] at h

end Intent

namespace Order

variable {order : Order}

/-- An order that runs for an agent, or is not for many, commands one unit at most. -/
theorem length_choices_le_one {agent : Option UnitTag}
    (h : agent.isSome = true ∨ order.intent.isForMany = false) (situation : Situation)
    (dispatch : Dispatch) : (order.choices situation dispatch agent).1.length ≤ 1 := by
  cases agent with
  | none =>
    rcases h with h | h
    · cases h
    · exact Intent.length_assignments_le_one h situation dispatch
  | some tag =>
    obtain ⟨target, htarget⟩ := order.choices_some situation dispatch tag
    rw [htarget, List.length_map]
    exact Option.length_toList_le

/-- An order that commands somebody has done something. -/
theorem issued_perform_of_choices {situation : Situation} {dispatch : Dispatch}
    {agent : Option UnitTag} (h : (order.choices situation dispatch agent).1 ≠ []) :
    (order.perform situation dispatch agent).issued = true := by
  rcases order.perform_cases situation dispatch agent with ⟨group, edit, haction⟩ | hcommit
  · rw [choices_of_groupEdit haction] at h
    exact absurd rfl h
  · rw [hcommit]
    simpa [commit] using h

/-- An order that edits no group does something only if it commands somebody. -/
theorem choices_ne_nil_of_issued {situation : Situation} {dispatch : Dispatch}
    {agent : Option UnitTag} (edits : order.intent.editsGroup = false)
    (issued : (order.perform situation dispatch agent).issued = true) :
    (order.choices situation dispatch agent).1 ≠ [] := by
  have hedit : ∀ group edit, order.intent.action ≠ .groupEdit group edit := by
    intro group edit haction
    simp [Intent.editsGroup, haction, Action.kind] at edits
  rw [perform_eq_commit hedit] at issued
  simpa [commit] using issued

end Order

/-- What the commands of a run have to do with its success and with the intent of its order. -/
structure LoggedRun.Exact (intent? : OrderId → Option Intent) (entry : LoggedRun) : Prop where
  issued : entry.commands ≠ [] → entry.run.issued = true
  commands_ne_nil : entry.run.issued = true →
    (intent? entry.run.order).any (·.editsGroup) = false → entry.commands ≠ []
  length_le_one : entry.run.agent.isSome = true ∨
    (intent? entry.run.order).any (·.isForMany) = false → entry.commands.length ≤ 1

section Counting

variable {intent? : OrderId → Option Intent} {entries : List LoggedRun}

/-- There is a command for every run that did something other than edit a group. -/
theorem countP_issued_le (exact : ∀ entry ∈ entries, entry.Exact intent?) :
    (entries.map (·.run)).countP
        (fun run => run.issued && !(intent? run.order).any (·.editsGroup)) ≤
      (entries.flatMap (·.commands)).length := by
  induction entries with
  | nil => exact Nat.le_refl 0
  | cons entry entries ih =>
    obtain ⟨hentry, hentries⟩ := List.forall_mem_cons.mp exact
    have hrest := ih hentries
    rw [List.map_cons, List.countP_cons, List.flatMap_cons, List.length_append]
    split
    · rename_i h
      obtain ⟨hissued, hedits⟩ := (Bool.and_eq_true _ _).mp h
      have hcommands := hentry.commands_ne_nil hissued ((Bool.not_eq_true' _).mp hedits)
      have hpos : 0 < entry.commands.length := List.length_pos_iff.mpr hcommands
      omega
    · omega

/-- If no run edits a group and each is for an agent or not for many, there is one command for every
run that did something, and no other. -/
theorem length_commands_eq (exact : ∀ entry ∈ entries, entry.Exact intent?)
    (edits : ∀ entry ∈ entries, (intent? entry.run.order).any (·.editsGroup) = false)
    (single : ∀ entry ∈ entries, entry.run.agent.isSome = true ∨
      (intent? entry.run.order).any (·.isForMany) = false) :
    (entries.flatMap (·.commands)).length = (entries.map (·.run)).countP (·.issued) := by
  induction entries with
  | nil => rfl
  | cons entry entries ih =>
    obtain ⟨hentry, hentries⟩ := List.forall_mem_cons.mp exact
    obtain ⟨hedits, edits⟩ := List.forall_mem_cons.mp edits
    obtain ⟨hsingle, single⟩ := List.forall_mem_cons.mp single
    have hrest := ih hentries edits single
    have hle := hentry.length_le_one hsingle
    rw [List.map_cons, List.countP_cons, List.flatMap_cons, List.length_append]
    -- A run that has issued sends one command, and any other sends none.
    split
    · rename_i hissued
      have hpos : 0 < entry.commands.length :=
        List.length_pos_iff.mpr (hentry.commands_ne_nil hissued hedits)
      omega
    · rename_i hissued
      have hnil : entry.commands = [] :=
        Classical.byContradiction fun h => hissued (hentry.issued h)
      rw [hnil, List.length_nil]
      omega

end Counting

namespace Session

variable {session : Session} {snapshot : Snapshot}

/-! ## The account of a tick -/

/-- The commands of a run: one for each unit that its order chooses. -/
def commandsOf (session : Session) (snapshot : Snapshot) (id : OrderId)
    (agent : Option UnitTag) : List Command :=
  match session.book.orders.get? id with
  | none => []
  | some order =>
    (order.choices (session.situation snapshot) session.dispatch agent).1.map order.command

/-- The turns of a queue, each with its commands. -/
def accountIdle (snapshot : Snapshot) : List (UnitTag × OrderId) → Session → List LoggedRun
  | [], _ => []
  | entry :: queue, session =>
    let (run, after) := session.turn snapshot entry
    let popped := session.modifyAgent entry.1 (·.withoutFollowUp)
    ⟨run, popped.commandsOf snapshot entry.2 (some entry.1)⟩ :: accountIdle snapshot queue after

theorem accountIdle_cons (snapshot : Snapshot) (entry : UnitTag × OrderId)
    (queue : List (UnitTag × OrderId)) (session : Session) :
    accountIdle snapshot (entry :: queue) session =
      ⟨(session.turn snapshot entry).1, (session.modifyAgent entry.1 (·.withoutFollowUp)).commandsOf
          snapshot entry.2 (some entry.1)⟩ ::
        accountIdle snapshot queue (session.turn snapshot entry).2 := rfl

/-- The runs of several rules, each with its commands. -/
def accountRules (snapshot : Snapshot) : List OrderId → Session → List LoggedRun
  | [], _ => []
  | id :: ids, session =>
    let (run, after) := session.run snapshot id none
    ⟨run, session.commandsOf snapshot id none⟩ :: accountRules snapshot ids after

/-- The runs of a tick, each with its commands: the turns of the idle agents that have an order
coming up, and then the rules that fire. -/
def account (session : Session) (snapshot : Snapshot) : List LoggedRun :=
  accountIdle snapshot session.roster.queue (session.synced snapshot) ++
    accountRules snapshot (session.firing snapshot) (session.between snapshot)

/-- A run issues the commands of its order. -/
theorem issuedSince_run_eq_commandsOf (session : Session) (snapshot : Snapshot) (id : OrderId)
    (agent : Option UnitTag) :
    (session.run snapshot id agent).2.issuedSince session =
      session.commandsOf snapshot id agent := by
  unfold commandsOf
  cases hid : session.book.orders.get? id with
  | none => exact issuedSince_run_of_missing hid snapshot agent
  | some order => exact issuedSince_run hid snapshot agent

/-- The log of some idle agents is the account of those among them that have an order coming up. -/
theorem logIdle_eq_accountIdle (snapshot : Snapshot) {tags : List UnitTag} (nodup : tags.Nodup)
    (session : Session) :
    logIdle snapshot tags session =
      accountIdle snapshot
        (tags.filterMap fun tag => (session.roster.due? tag).map fun id => (tag, id)) session := by
  induction tags generalizing session with
  | nil => rfl
  | cons tag tags ih =>
    obtain ⟨hnew, nodup⟩ := List.nodup_cons.mp nodup
    rw [logIdle_cons, runIdle_eq, List.filterMap_cons]
    cases hid : session.roster.due? tag with
    | none => simp only [Option.map_none, List.map_nil, List.nil_append, ih nodup]
    | some id =>
      -- Taking away what follows issues nothing, so the turn issues what its run does.
      have hissued : (session.turn snapshot (tag, id)).2.issuedSince session =
          (session.modifyAgent tag (·.withoutFollowUp)).commandsOf snapshot id (some tag) :=
        issuedSince_run_eq_commandsOf (session.modifyAgent tag (·.withoutFollowUp)) snapshot id
          (some tag)
      simp only [Option.map_some, List.map_cons, List.map_nil, List.singleton_append,
        accountIdle_cons, hissued, ih nodup, due?_turn hnew]

/-- The log of some rules is their account. -/
theorem logRules_eq_accountRules (snapshot : Snapshot) (ids : List OrderId) (session : Session) :
    logRules snapshot ids session = accountRules snapshot ids session := by
  induction ids generalizing session with
  | nil => rfl
  | cons id ids ih => simp only [logRules, accountRules, issuedSince_run_eq_commandsOf, ih]

/-- **The account of a tick is its log**: what the orders of its runs choose is what they issue. -/
theorem log_eq_account (keyed : session.book.Keyed) (snapshot : Snapshot) :
    session.log snapshot = session.account snapshot := by
  have nodup : (session.synced snapshot).roster.idle.Nodup := Roster.nodup_tagsOf _ _
  have hqueue : (session.synced snapshot).roster.queue = session.roster.queue :=
    session.roster.queue_syncPositions snapshot
  rw [log, account, logIdle_eq_accountIdle snapshot nodup, logRules_eq_accountRules,
    firing_between keyed, ← hqueue]
  rfl

/-! ## The report of a tick -/

/-- The commands of a run say of it what they should. -/
theorem exact_run (session : Session) (snapshot : Snapshot) (id : OrderId)
    (agent : Option UnitTag) :
    LoggedRun.Exact session.book.intent?
      ⟨(session.run snapshot id agent).1, session.commandsOf snapshot id agent⟩ := by
  unfold commandsOf
  -- An order that is gone is run as one that commands nobody.
  cases hid : session.book.orders.get? id with
  | none =>
    rw [run_of_missing hid]
    refine ⟨fun h => absurd rfl h, ?_, fun _ => Nat.zero_le 1⟩
    intro h
    cases h
  | some order =>
    have hintent : session.book.intent? id = some order.intent := by
      rw [OrderBook.intent?, hid, Option.map_some]
    rw [run_of_stored hid]
    refine ⟨?_, ?_, ?_⟩
    · intro h
      exact Order.issued_perform_of_choices (List.map_eq_nil_iff.not.mp h)
    · intro issued edits
      rw [hintent, Option.any_some] at edits
      exact List.map_eq_nil_iff.not.mpr (Order.choices_ne_nil_of_issued edits issued)
    · intro h
      rw [hintent, Option.any_some] at h
      rw [List.length_map]
      exact Order.length_choices_le_one h _ _

/-- The entries of the queue are exact, and are all for an agent. -/
theorem exact_accountIdle (keyed : session.book.Keyed) (snapshot : Snapshot)
    (queue : List (UnitTag × OrderId)) : ∀ entry ∈ accountIdle snapshot queue session,
      entry.Exact session.book.intent? ∧ entry.run.agent.isSome = true := by
  induction queue generalizing session with
  | nil => exact List.forall_mem_nil _
  | cons due queue ih =>
    have popped : (session.modifyAgent due.1 (·.withoutFollowUp)).book.Keyed := keyed
    obtain ⟨turned, hintent, -⟩ := run_keeps popped snapshot due.2 (some due.1)
    refine List.forall_mem_cons.mpr ⟨⟨?_, ?_⟩, ?_⟩
    · exact exact_run (session.modifyAgent due.1 (·.withoutFollowUp)) snapshot due.2 (some due.1)
    · exact congrArg Option.isSome (agent_run _ snapshot due.2 (some due.1))
    · have hrest := ih turned
      rw [hintent] at hrest
      exact hrest

/-- The entries of the rules are exact, and are all for an order that was asked for. -/
theorem exact_accountRules (keyed : session.book.Keyed) (snapshot : Snapshot)
    (ids : List OrderId) : ∀ entry ∈ accountRules snapshot ids session,
      entry.Exact session.book.intent? ∧ entry.run.order ∈ ids := by
  induction ids generalizing session with
  | nil => exact List.forall_mem_nil _
  | cons id ids ih =>
    obtain ⟨ran, hintent, -⟩ := run_keeps keyed snapshot id none
    refine List.forall_mem_cons.mpr ⟨⟨session.exact_run snapshot id none, ?_⟩, ?_⟩
    · exact List.mem_cons.mpr (Or.inl (session.order_run snapshot id none))
    · intro entry hentry
      have hrest := ih ran
      rw [hintent] at hrest
      exact ⟨(hrest entry hentry).1, List.mem_cons_of_mem _ (hrest entry hentry).2⟩

/-- Every run of a tick is for an agent, or else its order belongs to a rule that fires. -/
theorem exact_account (keyed : session.book.Keyed) (snapshot : Snapshot) :
    ∀ entry ∈ session.account snapshot, entry.Exact session.book.intent? ∧
      (entry.run.agent.isSome = true ∨ entry.run.order ∈ session.firing snapshot) := by
  have hsynced : (session.synced snapshot).book.Keyed := keyed
  obtain ⟨hkeyed, hintent, -⟩ := runQueue_keeps hsynced snapshot session.roster.queue
  rw [← between_eq] at hkeyed hintent
  have hidle := exact_accountIdle hsynced snapshot session.roster.queue
  have hrules := exact_accountRules hkeyed snapshot (session.firing snapshot)
  intro entry hentry
  rcases List.mem_append.mp hentry with hentry | hentry
  · exact ⟨(hidle entry hentry).1, Or.inl (hidle entry hentry).2⟩
  · rw [hintent] at hrules
    exact ⟨(hrules entry hentry).1, Or.inr (hrules entry hentry).2⟩

/-- The runs of a tick in their order. -/
def runs (session : Session) (snapshot : Snapshot) : List Run :=
  (session.playTick snapshot).idle ++ (session.playTick snapshot).rules

/-- Without the commands, the account lists the runs of the tick. -/
theorem account_runs (keyed : session.book.Keyed) (snapshot : Snapshot) :
    (session.account snapshot).map (·.run) = session.runs snapshot := by
  rw [← log_eq_account keyed]
  exact session.log_runs snapshot

/-- What the report of a tick says about its runs and its commands. -/
structure ExactReport (session : Session) (snapshot : Snapshot) (report : StepReport) : Prop where
  rulesFired : report.rulesFired = (session.firing snapshot).length
  ordersSucceeded_le : report.ordersSucceeded ≤ report.idleProcessed + report.rulesFired
  /-- There is a command for every run that did something other than edit a group. -/
  le_commandsIssued : (session.runs snapshot).countP
      (fun run => run.issued && !(session.book.intent? run.order).any (·.editsGroup)) ≤
    report.commandsIssued
  /-- If no run edits a group and no rule is for many units, every run that did something has issued
  one command. -/
  commandsIssued :
    (∀ run ∈ session.runs snapshot, (session.book.intent? run.order).any (·.editsGroup) = false) →
    (∀ id ∈ session.firing snapshot, (session.book.intent? id).any (·.isForMany) = false) →
    report.commandsIssued = report.ordersSucceeded

theorem length_runRules (snapshot : Snapshot) (ids : List OrderId) (session : Session) :
    (runRules snapshot ids session).1.length = ids.length := by
  rw [← logRules_runs, List.length_map]
  induction ids generalizing session with
  | nil => rfl
  | cons id ids ih => exact congrArg (· + 1) (ih _)

/-- The report of a tick counts what has happened in it. -/
theorem exactReport_step (keyed : session.book.Keyed) (quiet : session.outbox = [])
    (snapshot : Snapshot) : session.ExactReport snapshot (session.step snapshot).value := by
  have hexact := exact_account keyed snapshot
  have hruns := account_runs keyed snapshot
  have hcommands : (session.step snapshot).value.commandsIssued =
      ((session.account snapshot).flatMap (·.commands)).length := by
    rw [← log_eq_account keyed, ← session.sent_step snapshot quiet]
    rfl
  have hsucceeded : (session.step snapshot).value.ordersSucceeded =
      (session.runs snapshot).countP (·.issued) := rfl
  refine ⟨?_, ?_, ?_, ?_⟩
  · have hrules : (session.step snapshot).value.rulesFired =
        ((session.between snapshot).firing snapshot).length :=
      length_runRules snapshot _ (session.between snapshot)
    rw [hrules, firing_between keyed]
  · have hlength : (session.runs snapshot).length =
        (session.step snapshot).value.idleProcessed + (session.step snapshot).value.rulesFired :=
      List.length_append
    rw [hsucceeded, ← hlength]
    exact List.countP_le_length
  · rw [hcommands, ← hruns]
    exact countP_issued_le fun entry hentry => (hexact entry hentry).1
  · -- Without group edits and orders for many, runs that issued and commands are counted alike.
    intro edits single
    rw [hcommands, hsucceeded, ← hruns]
    refine length_commands_eq (fun entry hentry => (hexact entry hentry).1) ?_ ?_
    · intro entry hentry
      refine edits entry.run ?_
      rw [← hruns]
      exact List.mem_map_of_mem hentry
    · intro entry hentry
      exact (hexact entry hentry).2.imp_right (single entry.run.order)

/-! ## The commands of the other callbacks -/

/-- The stop for the nearest agent that is placing a gas structure, if a new unit of our own is a
structure that leaves its builder standing. -/
def stopsFor (session : Session) (unit : UnitView) : List Command :=
  if unit.isOwn && !session.roster.contains unit.tag && unit.category = .building
      && unit.unitType.strandsBuilder then
    (nearestTo unit.position (session.roster.candidates (·.can .placingGas))).toList.map
      fun tag => .single tag .stop .nothing
  else []

/-- A command for each agent that is sent to a finished gas structure. -/
def gathersFor (session : Session) (unit : UnitView) : List Command :=
  if unit.unitType.isGasStructure then
    (session.gasCrew unit session.config.gasWorkersPerStructure.toNat).map (gather unit)
  else []

/-- The blink of a weak unit. -/
def blinksFor (session : Session) (snapshot : Snapshot) (unit : UnitView) : List Command :=
  if session.mustBlink snapshot unit then
    [.single unit.tag .effectBlink (.point session.layout.startLocation)]
  else []

/-- Whether a callback sends just these commands in this order, leaves none behind, and returns how
many they are if it returns a number. -/
structure Sends {α : Type} (reply : Reply α) (number : α → Option Nat) (commands : List Command) :
    Prop where
  sent : reply.sent = commands
  outbox : reply.session.outbox = []
  counted : ∀ count ∈ number reply.value, count = commands.length

/-- A reply without commands sends nothing. -/
theorem sends_silent {α : Type} {number : α → Option Nat} {value : α} (quiet : session.outbox = [])
    (zero : ∀ count ∈ number value, count = 0) : Sends (session.silent value) number [] :=
  ⟨rfl, quiet, zero⟩

/-- What is in the outbox at the end of a callback is sent. -/
theorem sends_flush (session : Session) : Sends session.flush some session.outbox := by
  refine ⟨rfl, rfl, ?_⟩
  intro count hcount
  exact (Option.some.inj hcount).symm

theorem outbox_recruit (session : Session) (unit : UnitView) (agent : Agent) (place : Place) :
    (session.recruit unit agent place).outbox = session.outbox := by
  unfold recruit
  split <;> rfl

theorem outbox_welcomeAll (units : List UnitView) (session : Session) :
    (units.foldl welcome session).outbox = session.outbox := by
  induction units generalizing session with
  | nil => rfl
  | cons unit units ih =>
    rw [List.foldl_cons, ih, welcome]
    split
    · rfl
    · exact session.outbox_recruit unit _ _

theorem outbox_register (session : Session) (unit : UnitView) :
    (session.register unit).outbox = session.outbox := by
  unfold register
  rw [outbox_recruit]
  unfold post
  split <;> rfl

/-- Releasing a gas builder stops the nearest agent that places a gas structure, if there is one. -/
theorem outbox_releaseGasBuilder (session : Session) (around : Point) :
    (session.releaseGasBuilder around).outbox = session.outbox ++
      (nearestTo around (session.roster.candidates (·.can .placingGas))).toList.map
        fun tag => .single tag .stop .nothing := by
  unfold releaseGasBuilder
  split
  · rename_i h
    rw [h]
    exact (List.append_nil _).symm
  · rename_i tag h
    rw [h]
    rfl

/-- A unit that was created makes the stops for it. -/
theorem sends_created (quiet : session.outbox = []) (unit : UnitView) :
    Sends (session.created unit) some (session.stopsFor unit) := by
  unfold created stopsFor
  by_cases hnew : (!unit.isOwn || session.roster.contains unit.tag) = true
  · have hold : (unit.isOwn && !session.roster.contains unit.tag) = false := by
      rw [← Bool.not_eq_true', Bool.not_and, Bool.not_not, hnew]
    rw [if_pos hnew, hold]
    refine sends_silent quiet fun count hcount => ?_
    exact (Option.some.inj hcount).symm
  · have hold : (unit.isOwn && !session.roster.contains unit.tag) = true := by
      rw [← Bool.not_eq_false', Bool.not_and, Bool.not_not, Bool.eq_false_iff.mpr hnew]
    rw [if_neg hnew, hold, Bool.true_and]
    split
    · -- Registering sends nothing, so only the stop of the builder is left to send.
      have hsends := (register (session.releaseGasBuilder unit.position) unit).sends_flush
      rw [outbox_register, outbox_releaseGasBuilder, quiet, List.nil_append] at hsends
      exact hsends
    · have hsends := (session.register unit).sends_flush
      rw [outbox_register, quiet] at hsends
      exact hsends

/-- A unit that was completed makes its gatherers gather. -/
theorem sends_completed (quiet : session.outbox = []) (unit : UnitView) :
    Sends (session.completed unit) Except.toOption (session.gathersFor unit) := by
  unfold gathersFor
  split
  · rename_i gas
    have hsends := ((session.gasCrew unit session.config.gasWorkersPerStructure.toNat).foldl
      (sendToGas unit) session).sends_flush
    rw [outbox_sendAllToGas, quiet, List.nil_append] at hsends
    rw [completed_of_isGasStructure gas]
    exact ⟨hsends.sent, hsends.outbox, hsends.counted⟩
  · rename_i gas
    -- No crew is sent then, whether the callback fails or not.
    obtain ⟨layout, ⟨-, -, hcompleted⟩ | ⟨roster, -, crewed, hcrewed, hcompleted⟩⟩ :=
      session.completed_cases unit
    · rw [hcompleted]
      exact sends_silent quiet fun count hcount => by cases hcount
    · have hsends := crewed.sends_flush
      have houtbox : crewed.outbox = [] := by
        rw [hcrewed, if_neg gas]
        exact quiet
      rw [houtbox] at hsends
      rw [hcompleted]
      exact ⟨hsends.sent, hsends.outbox, hsends.counted⟩

/-- A unit that was damaged makes the blinks for it. -/
theorem sends_damaged (quiet : session.outbox = []) (snapshot : Snapshot) (unit : UnitView) :
    Sends (session.damaged snapshot unit) some (session.blinksFor snapshot unit) := by
  unfold damaged blinksFor
  split
  · have hsends := (session.issue
      (.single unit.tag .effectBlink (.point session.layout.startLocation))).sends_flush
    simp only [issue, quiet, List.nil_append] at hsends ⊢
    exact hsends
  · have hsends := session.sends_flush
    rw [quiet] at hsends
    exact hsends

/-- The start sends nothing. -/
theorem sends_start (quiet : session.outbox = []) (snapshot : Snapshot) :
    Sends (session.start snapshot) some [] := by
  have hwelcomed := outbox_welcomeAll snapshot.ownUnits session
  rw [quiet] at hwelcomed
  refine ⟨hwelcomed, rfl, ?_⟩
  intro count hcount
  obtain rfl := Option.some.inj hcount
  exact congrArg List.length hwelcomed

/-- A tick sends what its account says, and counts it. -/
theorem sends_step (keyed : session.book.Keyed) (quiet : session.outbox = [])
    (snapshot : Snapshot) : Sends (session.step snapshot) (fun report => some report.commandsIssued)
      ((session.account snapshot).flatMap (·.commands)) := by
  have hsent : (session.step snapshot).sent = (session.account snapshot).flatMap (·.commands) := by
    rw [session.sent_step snapshot quiet, log_eq_account keyed]
  refine ⟨hsent, rfl, ?_⟩
  intro count hcount
  obtain rfl := Option.some.inj hcount
  exact congrArg List.length hsent

/-- An agent that becomes idle sends nothing. -/
theorem sends_becameIdle (quiet : session.outbox = []) (tag : UnitTag) :
    Sends (session.becameIdle tag) (fun _ => none) [] := by
  unfold becameIdle
  split
  · exact sends_silent quiet fun count hcount => by cases hcount
  · refine sends_silent ?_ fun count hcount => by cases hcount
    rw [unassign_eq_unassignAll]
    exact quiet

/-- A unit that was destroyed sends nothing. -/
theorem sends_destroyed (quiet : session.outbox = []) (unit : UnitView) :
    Sends (session.destroyed unit) (fun _ => none) [] := by
  unfold destroyed
  split
  · exact sends_silent quiet fun count hcount => by cases hcount
  · split
    · exact sends_silent quiet fun count hcount => by cases hcount
    · exact sends_silent quiet fun count hcount => by cases hcount

/-! ## All callbacks -/

/-- **Every command is accounted for.** In every reachable session, each callback sends just the
commands that it decides on, in their order, returns how many they are, and leaves none behind: none
at the start of the game, when an agent has become idle and when a unit is gone; those of its account
in a tick; a stop for the builder that a new gas structure leaves standing; the crew of a finished gas
structure; the blink of a weak unit. The report of a tick counts the rules that fire, at most as many
successes as runs, and at least one command for every success other than the edit of a group; and if
no order that runs edits a group and no rule is for agents with capabilities or in a group, it counts
as many commands as successes. -/
theorem Reachable.commands_accounted (reached : session.Reachable) :
    (∀ snapshot, Sends (session.start snapshot) some []) ∧
      (∀ snapshot, Sends (session.step snapshot) (fun report => some report.commandsIssued)
        ((session.account snapshot).flatMap (·.commands))) ∧
      (∀ unit, Sends (session.created unit) some (session.stopsFor unit)) ∧
      (∀ unit, Sends (session.completed unit) Except.toOption (session.gathersFor unit)) ∧
      (∀ snapshot unit, Sends (session.damaged snapshot unit) some
        (session.blinksFor snapshot unit)) ∧
      (∀ tag, Sends (session.becameIdle tag) (fun _ => none) []) ∧
      (∀ unit, Sends (session.destroyed unit) (fun _ => none) []) ∧
      ∀ snapshot, (session.account snapshot).map (·.run) = session.runs snapshot ∧
        session.ExactReport snapshot (session.step snapshot).value := by
  have quiet := reached.quiet
  have keyed := reached.linked.keyed
  exact ⟨sends_start quiet, sends_step keyed quiet, sends_created quiet, sends_completed quiet,
    sends_damaged quiet, sends_becameIdle quiet, sends_destroyed quiet, fun snapshot =>
      ⟨account_runs keyed snapshot, exactReport_step keyed quiet snapshot⟩⟩

end Session

/-- In a tick of the small game the worker is sent to the minerals and then to build a pylon, and the
second rule finds nobody. A finished gas structure gets this one worker. -/
theorem Session.Reachable.commands_accounted_rivals :
    (SmallGame.rivals.account SmallGame.snapshot).map (·.commands.length) = [1, 1, 0] ∧
      (SmallGame.rivals.step SmallGame.snapshot).sent =
        (SmallGame.rivals.account SmallGame.snapshot).flatMap (·.commands) ∧
      (SmallGame.rivals.step SmallGame.snapshot).value.commandsIssued =
        (SmallGame.rivals.step SmallGame.snapshot).value.ordersSucceeded ∧
      (SmallGame.rivals.completed SmallGame.assimilator).sent =
        [Session.gather SmallGame.assimilator ⟨7⟩] := by
  obtain ⟨-, step, -, completed, -, -, -, report⟩ :=
    SmallGame.reachable_rivals.commands_accounted
  refine ⟨by decide, (step SmallGame.snapshot).sent, ?_, ?_⟩
  · exact (report SmallGame.snapshot).2.commandsIssued (by decide) (by decide)
  · exact (completed SmallGame.assimilator).sent.trans (by decide)

end Skirmish
