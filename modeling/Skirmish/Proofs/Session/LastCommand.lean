import Skirmish.Proofs.Session.CrossReference

/-!
# The last command decides

An agent can be commanded several times in a tick, by the order that it runs while it is idle and
then by any number of rules. `last_command_decides` says what is left of this at the end of the tick:
the agent works on the order that issued the last of its commands, and no other order lists it; and
if it got no command, then nothing has changed for it.

The commands are traced to their orders through the log of the tick. `LoggedRun.ledger` lists the
commands with the orders that issued them, in the order in which they are sent, and
`LoggedRun.ordersFor` keeps those that address a unit.

## Shape of the proof

`Session.Decided` relates two sessions by the log between them, for one tag. It composes along the
log (`Decided.append`), because the last command of two logs is that of the second one unless the
second one is silent, and a run satisfies it by `Session.Ran`. Nothing is said there about the book:
that the lists follow is the agreement of roster and book before and after the tick.
-/

namespace Skirmish

/-! ## Commands with their orders -/

namespace LoggedRun

/-- The commands of a log, each with the order that has issued it. -/
def ledger (log : List LoggedRun) : List (OrderId × Command) :=
  log.flatMap fun entry => entry.commands.map fun command => (entry.run.order, command)

/-- The orders that have commanded a unit, one for each command. -/
def ordersFor (log : List LoggedRun) (tag : UnitTag) : List OrderId :=
  ((ledger log).filter fun entry => entry.2.addresses tag).map (·.1)

/-- Without the orders, the ledger lists the commands of the log. -/
theorem ledger_commands (log : List LoggedRun) :
    (ledger log).map (·.2) = log.flatMap (·.commands) := by
  unfold ledger
  rw [List.map_flatMap]
  congr 1
  funext entry
  rw [List.map_map]
  exact List.map_id _

/-- The orders of two stretches of a log are those of the first and then of the second. -/
theorem ordersFor_append (first second : List LoggedRun) (tag : UnitTag) :
    ordersFor (first ++ second) tag = ordersFor first tag ++ ordersFor second tag := by
  unfold ordersFor ledger
  rw [List.flatMap_append, List.filter_append, List.map_append]

/-- One run adds its order as often as it commands the agent. -/
theorem ordersFor_singleton (entry : LoggedRun) (tag : UnitTag) :
    ordersFor [entry] tag =
      (entry.commands.filter (·.addresses tag)).map fun _ => entry.run.order := by
  unfold ordersFor ledger
  rw [List.flatMap_singleton, List.filter_map, List.map_map]
  rfl

/-- The choices of an order say whom its commands address. -/
theorem ordersFor_eq_nil_iff {run : Session.Run} {order : Order}
    {choices : List (UnitTag × CommandTarget)} {tag : UnitTag} :
    ordersFor [⟨run, choices.map order.command⟩] tag = [] ↔ tag ∉ choices.map (·.1) := by
  rw [ordersFor_singleton, List.filter_map, List.map_map, List.map_eq_nil_iff,
    List.filter_eq_nil_iff]
  constructor
  · intro h hmem
    obtain ⟨choice, hchoice, rfl⟩ := List.mem_map.mp hmem
    exact h choice hchoice (order.addresses_command_iff.mpr rfl)
  · intro h choice hchoice haddresses
    exact h (List.mem_map.mpr ⟨choice, hchoice, order.addresses_command_iff.mp haddresses⟩)

end LoggedRun

namespace Session

open LoggedRun

variable {before middle after session : Session} {tag : UnitTag}

/-! ## What a log decides -/

/-- What a log decides for a tag: the order of the last command, if there is one. -/
structure Decided (before : Session) (log : List LoggedRun) (after : Session) (tag : UnitTag) :
    Prop where
  contains : after.roster.contains tag = before.roster.contains tag
  silent : ordersFor log tag = [] → after.roster.duty? tag = before.roster.duty? tag
  last : ∀ id, (ordersFor log tag).getLast? = some id →
    ∀ duty, after.roster.duty? tag = some duty → duty.isIdle = false ∧ duty.current = some id

namespace Decided

/-- Nothing has been decided about an agent whose duty is the same. -/
theorem of_duty?_eq (h : after.roster.duty? tag = before.roster.duty? tag) :
    Decided before [] after tag := by
  refine ⟨?_, fun _ => h, ?_⟩
  · rw [Roster.contains_eq_duty?, Roster.contains_eq_duty?, h]
  · intro id hlast
    cases hlast

/-- One log after another. -/
theorem append {first second : List LoggedRun} (h₁ : Decided before first middle tag)
    (h₂ : Decided middle second after tag) : Decided before (first ++ second) after tag := by
  refine ⟨h₂.contains.trans h₁.contains, ?_, ?_⟩
  · intro hsilent
    rw [ordersFor_append, List.append_eq_nil_iff] at hsilent
    rw [h₂.silent hsilent.2, h₁.silent hsilent.1]
  · intro id hlast duty hduty
    rw [ordersFor_append, List.getLast?_append] at hlast
    cases hsecond : (ordersFor second tag).getLast? with
    | none =>
      -- The second log is silent, so the first one has the last word.
      rw [hsecond, Option.none_or] at hlast
      rw [h₂.silent (List.getLast?_eq_none_iff.mp hsecond)] at hduty
      exact h₁.last id hlast duty hduty
    | some last =>
      rw [hsecond, Option.some_or] at hlast
      exact h₂.last id (hsecond.trans hlast) duty hduty

/-- Running a stored order decides for those that it commands. -/
theorem of_ran {order : Order} {choices : List (UnitTag × CommandTarget)}
    (ran : before.Ran order choices after) {run : Run} (hrun : run.order = order.id)
    (tag : UnitTag) : Decided before [⟨run, after.issuedSince before⟩] after tag := by
  have hcommands : after.issuedSince before = choices.map order.command := by
    rw [issuedSince, ran.outbox, List.drop_left]
  rw [hcommands]
  refine ⟨?_, ?_, ?_⟩
  · rw [Roster.contains_eq_duty?, Roster.contains_eq_duty?, ran.duty?]
    split
    · exact Option.isSome_map
    · rfl
  · intro hsilent
    rw [ran.duty?, if_neg (ordersFor_eq_nil_iff.mp hsilent)]
  · intro id hlast duty hduty
    have hmem : tag ∈ choices.map (·.1) := by
      refine Decidable.not_not.mp fun hnot => ?_
      rw [ordersFor_eq_nil_iff.mpr hnot] at hlast
      cases hlast
    rw [ran.duty?, if_pos hmem] at hduty
    obtain ⟨old, -, rfl⟩ := Option.map_eq_some_iff.mp hduty
    -- All commands of the run come from the one order.
    have hid := List.mem_of_getLast? hlast
    rw [ordersFor_singleton] at hid
    obtain ⟨-, -, rfl⟩ := List.mem_map.mp hid
    exact ⟨rfl, congrArg some hrun.symm⟩

/-- A run decides for those that it commands. -/
theorem run (keyed : session.book.Keyed) (snapshot : Snapshot) (id : OrderId)
    (agent : Option UnitTag) (tag : UnitTag) :
    Decided session
      [⟨(session.run snapshot id agent).1, (session.run snapshot id agent).2.issuedSince session⟩]
      (session.run snapshot id agent).2 tag := by
  cases horder : session.book.orders.get? id with
  | none =>
    rw [run_of_missing horder, issuedSince, List.drop_length]
    refine ⟨rfl, fun _ => rfl, ?_⟩
    intro last hlast
    rw [ordersFor_singleton] at hlast
    cases hlast
  | some order =>
    have hid : (session.run snapshot id agent).1.order = order.id := by
      rw [run_of_stored horder]
      exact (keyed id order horder).symm
    exact of_ran (ran_run keyed horder snapshot agent) hid tag

/-- **A tick decides by its log.** -/
theorem playTick (linked : Linked session.roster session.book) (snapshot : Snapshot)
    (tag : UnitTag) :
    Decided session (session.log snapshot) (session.playTick snapshot).session tag := by
  -- Keys are needed at every run, so the agreement is carried along.
  suffices h : Linked session.roster session.book →
      Linked (session.playTick snapshot).session.roster (session.playTick snapshot).session.book ∧
        Decided session (session.log snapshot) (session.playTick snapshot).session tag from
    (h linked).2
  refine tick_induction (motive := fun before log after =>
    Linked before.roster before.book →
      Linked after.roster after.book ∧ Decided before log after tag) ?_ ?_ ?_ session
  · intro session roster h linked
    exact ⟨linked.of_duty?_eq h, of_duty?_eq (congrFun h tag)⟩
  · intro session id agent linked
    exact ⟨linked.run snapshot id agent, run linked.keyed snapshot id agent tag⟩
  · intro session middle after first second h₁ h₂ linked
    obtain ⟨linked, hfirst⟩ := h₁ linked
    obtain ⟨linked, hsecond⟩ := h₂ linked
    exact ⟨linked, hfirst.append hsecond⟩

/-- A tick decides for every agent by its log. -/
theorem step (linked : Linked session.roster session.book) (snapshot : Snapshot)
    (tag : UnitTag) :
    Decided session (session.log snapshot) (session.step snapshot).session tag := by
  have h := playTick linked snapshot tag
  exact ⟨h.contains, h.silent, h.last⟩

end Decided

/-! ## The state after a tick -/

/-- What an agent is when its last command came from an order: busy with it, and listed by it
alone. -/
def AtWork (session : Session) (tag : UnitTag) (agent : Agent) (id : OrderId) : Prop :=
  agent.isIdle = false ∧ agent.current = some id ∧
    ∀ other, session.book.Lists other tag ↔ other = id

/-- What an agent is when it got no command: as before, with the same orders listing it. -/
def Untouched (before after : Session) (tag : UnitTag) (old new : Agent) : Prop :=
  new.isIdle = old.isIdle ∧ new.current = old.current ∧ new.fallback = old.fallback ∧
    new.capabilities = old.capabilities ∧
    ∀ id, after.book.Lists id tag ↔ before.book.Lists id tag

/-- **The last command decides.** The log lists the runs of the tick with the commands that are sent.
A tick neither adds an agent nor takes one away. An agent that was commanded is at work on the order
whose run has issued the last of its commands, and an agent that was not commanded is as it was
before. -/
theorem Reachable.last_command_decides (reached : session.Reachable) (snapshot : Snapshot) :
    (session.log snapshot).map (·.run) =
        (session.playTick snapshot).idle ++ (session.playTick snapshot).rules ∧
      (ledger (session.log snapshot)).map (·.2) = (session.step snapshot).sent ∧
      (∀ tag, (session.step snapshot).session.roster.contains tag = session.roster.contains tag) ∧
      ∀ tag old, session.roster.get? tag = some old →
        ∃ new, (session.step snapshot).session.roster.get? tag = some new ∧
          match (ordersFor (session.log snapshot) tag).getLast? with
          | some id => (session.step snapshot).session.AtWork tag new id
          | none => session.Untouched (session.step snapshot).session tag old new := by
  have linked := reached.linked
  have hdecided : ∀ tag,
      Decided session (session.log snapshot) (session.step snapshot).session tag :=
    Decided.step linked snapshot
  refine ⟨session.log_runs snapshot, ?_, fun tag => (hdecided tag).contains, ?_⟩
  · rw [ledger_commands, session.sent_step snapshot reached.quiet]
  · intro tag old hold
    have hafter := linked.step snapshot
    have h := hdecided tag
    generalize (session.step snapshot).session = after at h hafter ⊢
    have hcontains : after.roster.contains tag = true := by
      rw [h.contains, Table.contains, hold, Option.isSome_some]
    obtain ⟨new, hnew⟩ := Option.isSome_iff_exists.mp hcontains
    have hduty := Roster.duty?_of_get? hnew
    have hcurrent := Roster.currentOf_of_get? hnew
    refine ⟨new, hnew, ?_⟩
    -- The last command settles the duty, and with it, as roster and book are linked, the lists.
    cases hlast : (ordersFor (session.log snapshot) tag).getLast? with
    | some id =>
      obtain ⟨hidle, hid⟩ := h.last id hlast new.duty hduty
      refine ⟨hidle, hid, ?_⟩
      intro other
      rw [hafter.lists_iff, hcurrent]
      show new.duty.current = some other ↔ other = id
      rw [hid, Option.some_inj, eq_comm]
    | none =>
      have hsame := h.silent (List.getLast?_eq_none_iff.mp hlast)
      rw [hduty, Roster.duty?_of_get? hold] at hsame
      have hsame := Option.some.inj hsame
      refine ⟨congrArg Duty.isIdle hsame, congrArg Duty.current hsame,
        congrArg Duty.fallback hsame, congrArg Duty.capabilities hsame, ?_⟩
      intro id
      rw [hafter.lists_iff, linked.lists_iff, hcurrent, Roster.currentOf_of_get? hold]
      show new.duty.current = some id ↔ old.duty.current = some id
      rw [hsame]

/-- The worker of the small game is first sent to the minerals and then to build a pylon, and that is
what it works on. -/
theorem Reachable.last_command_decides_rivals :
    ordersFor (SmallGame.rivals.log SmallGame.snapshot) ⟨7⟩ = [⟨1⟩, ⟨21⟩] ∧
      ∃ agent, (SmallGame.rivals.step SmallGame.snapshot).session.roster.get? ⟨7⟩ = some agent ∧
        (SmallGame.rivals.step SmallGame.snapshot).session.AtWork ⟨7⟩ agent ⟨21⟩ := by
  have hlog : ordersFor (SmallGame.rivals.log SmallGame.snapshot) ⟨7⟩ = [⟨1⟩, ⟨21⟩] := by decide
  refine ⟨hlog, ?_⟩
  obtain ⟨old, hold⟩ : ∃ old, SmallGame.rivals.roster.get? ⟨7⟩ = some old :=
    Option.isSome_iff_exists.mp (by decide)
  have h := (SmallGame.reachable_rivals.last_command_decides SmallGame.snapshot).2.2.2 ⟨7⟩ old hold
  rw [hlog] at h
  exact h

end Session

end Skirmish
