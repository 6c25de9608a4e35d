import Skirmish.Proofs.Order.Selection
import Skirmish.Proofs.Session.Failure
import Skirmish.Proofs.Session.SingleUse
import Skirmish.Proofs.Session.Steady
import Skirmish.Proofs.World.Relisting

/-!
# Whom rules command

A rule commands units that the snapshot shows. An order for units of a type looks for them among our
own. An order for agents takes them from the roster instead and looks them up among all units. Since
a unit stays on the roster until it is reported destroyed, such an order also commands one that has
changed sides (`Session.rules_may_command_deserters`). In no other way does a rule command a unit
that is not ours (`Session.Reachable.rules_command`).
-/

namespace Skirmish

/-- Whether an intent may address the unit with a tag: the snapshot shows the unit, and it is one of
ours or, if the intent is for agents, on the roster. -/
def Intent.MayAddress (intent : Intent) (snapshot : Snapshot) (roster : Roster) (tag : UnitTag) :
    Prop :=
  ∃ unit, snapshot.unit? tag = some unit ∧
    (unit.isOwn = true ∨ roster.contains tag = true ∧
      (intent.assignee.kind = .flags ∨ intent.assignee.kind = .group))

/-- **An order finds only units that it may address.** -/
theorem Intent.mayAddress_of_mem_assignments {intent : Intent} {situation : Situation}
    {dispatch : Dispatch} (distinct : (situation.snapshot.units.map (·.tag)).Nodup)
    {choice : UnitTag × CommandTarget}
    (h : choice ∈ (intent.assignments situation dispatch).1) :
    intent.MayAddress situation.snapshot dispatch.roster choice.1 := by
  have heach : ∀ test, choice ∈ (intent.targetEach situation ((dispatch.roster.tagsOf test).filter
      (intent.isFree situation dispatch.outbox)) dispatch.random).1 →
        (∃ unit, situation.snapshot.unit? choice.1 = some unit) ∧
          dispatch.roster.contains choice.1 = true := by
    intro test hchoice
    obtain ⟨hlisted, hfree⟩ := intent.isFree_of_mem_targetEach hchoice
    obtain ⟨unit, hunit, -⟩ := intent.unit?_of_isFree hfree
    obtain ⟨agent, hagent, -⟩ := Roster.mem_tagsOf.mp hlisted
    exact ⟨⟨unit, hunit⟩, Table.contains_of_get? hagent⟩
  unfold assignments at h
  -- A type is looked for among our units, flags and groups are looked up by the tags of the roster.
  cases hassignee : intent.assignee with
  | fallback =>
    rw [hassignee] at h
    cases h
  | unitType type =>
    rw [hassignee] at h
    obtain ⟨unit, hown, htag, -, -⟩ :=
      intent.exists_unit_of_assignment (Option.mem_toList.mp h)
    obtain ⟨hmem, hisOwn⟩ := List.mem_filter.mp hown
    exact ⟨unit, (Snapshot.unit?_eq_some_iff distinct).mpr ⟨hmem, htag⟩, Or.inl hisOwn⟩
  | flags capabilities =>
    rw [hassignee] at h
    obtain ⟨⟨unit, hunit⟩, hcontains⟩ := heach _ h
    exact ⟨unit, hunit, Or.inr ⟨hcontains, Or.inl (by rw [hassignee]; rfl)⟩⟩
  | group name =>
    rw [hassignee] at h
    obtain ⟨⟨unit, hunit⟩, hcontains⟩ := heach _ h
    exact ⟨unit, hunit, Or.inr ⟨hcontains, Or.inr (by rw [hassignee]; rfl)⟩⟩

namespace Session

variable {session : Session} {snapshot : Snapshot}

/-- What is known of the commands of a run: if it is one of a rule, they are for units that the
stored intent may address. -/
def Allowed (session : Session) (snapshot : Snapshot) (entry : LoggedRun) : Prop :=
  entry.run.agent = none → ∀ command ∈ entry.commands, ∃ intent tag,
    session.book.intent? entry.run.order = some intent ∧ command.IsFor tag ∧
      intent.MayAddress snapshot session.roster tag

/-- A single run only addresses whom its order may address. -/
theorem allowed_run (distinct : (snapshot.units.map (·.tag)).Nodup) (session : Session)
    (id : OrderId) (agent : Option UnitTag) :
    session.Allowed snapshot ⟨(session.run snapshot id agent).1,
      (session.run snapshot id agent).2.issuedSince session⟩ := by
  intro hagent command hcommand
  obtain rfl : agent = none := (session.agent_run snapshot id agent).symm.trans hagent
  cases hid : session.book.orders.get? id with
  | none =>
    rw [issuedSince_run_of_missing hid] at hcommand
    cases hcommand
  | some order =>
    rw [issuedSince_run hid] at hcommand
    obtain ⟨choice, hchoice, rfl⟩ := List.mem_map.mp hcommand
    refine ⟨order.intent, choice.1, ?_, order.isFor_command choice,
      Intent.mayAddress_of_mem_assignments distinct hchoice⟩
    rw [session.order_run snapshot id none, OrderBook.intent?, hid, Option.map_some]

/-- A run enlists nobody and removes nobody. -/
theorem roster_contains_run (session : Session) (snapshot : Snapshot) (id : OrderId)
    (agent : Option UnitTag) :
    (session.run snapshot id agent).2.roster.contains = session.roster.contains := by
  have steady : Agent.Steady fun _ => () :=
    ⟨fun _ _ => rfl, fun _ => rfl, fun _ _ _ => rfl, fun _ _ => rfl⟩
  funext tag
  exact Roster.contains_eq_of_view?_eq (congrFun (view?_run steady session snapshot id agent) tag)

/-- Runs whose rules command whom they may, and which change neither intents nor who is on the
roster. -/
structure Abides (before : Session) (snapshot : Snapshot) (log : List LoggedRun) (after : Session) :
    Prop where
  keyed : after.book.Keyed
  intent? : after.book.intent? = before.book.intent?
  contains : after.roster.contains = before.roster.contains
  allowed : ∀ entry ∈ log, before.Allowed snapshot entry

/-- All runs of a tick only address whom their orders may address. -/
theorem abides_playTick (distinct : (snapshot.units.map (·.tag)).Nodup)
    (keyed : session.book.Keyed) :
    session.Abides snapshot (session.log snapshot) (session.playTick snapshot).session := by
  refine tick_induction
    (motive := fun before log after => before.book.Keyed → before.Abides snapshot log after)
    ?_ ?_ ?_ session keyed
  · intro session roster hduty keyed
    refine ⟨keyed, rfl, funext fun tag => ?_, by simp⟩
    rw [Roster.contains_eq_duty?, hduty, ← Roster.contains_eq_duty?]
  · intro session id agent keyed
    obtain ⟨hkeyed, hintent, -⟩ := run_keeps keyed snapshot id agent
    refine ⟨hkeyed, hintent, session.roster_contains_run snapshot id agent, ?_⟩
    intro entry hentry
    rw [List.mem_singleton.mp hentry]
    exact allowed_run distinct session id agent
  · -- Intents and roster are the same in the middle, so the second half may address no one else.
    intro before middle after first second h₁ h₂ keyed
    have hfirst := h₁ keyed
    have hsecond := h₂ hfirst.keyed
    refine ⟨hsecond.keyed, hsecond.intent?.trans hfirst.intent?,
      hsecond.contains.trans hfirst.contains, ?_⟩
    intro entry hentry
    rcases List.mem_append.mp hentry with hentry | hentry
    · exact hfirst.allowed entry hentry
    · have hallowed := hsecond.allowed entry hentry
      simp only [Allowed, Intent.MayAddress, hfirst.intent?, hfirst.contains] at hallowed
      exact hallowed

/-- **Whom rules command.** Every command of a rule is for one unit that the snapshot shows. It is
one of ours; or else it is on the roster, and the order of the rule is for agents. -/
theorem Reachable.rules_command (reached : session.Reachable) (snapshot : Snapshot)
    (distinct : (snapshot.units.map (·.tag)).Nodup) :
    ∀ entry ∈ session.log snapshot, entry.run ∈ (session.playTick snapshot).rules →
      ∀ command ∈ entry.commands, ∃ intent tag,
        session.book.intent? entry.run.order = some intent ∧ command.IsFor tag ∧
          intent.MayAddress snapshot session.roster tag := by
  intro entry hentry hrule
  exact (abides_playTick distinct reached.linked.keyed).allowed entry hentry
    (agent_of_mem_rules hrule)

end Session

/-! ## Deserters -/

namespace SmallGame

/-- The session of the small game with a rule that sends all workers home. -/
def homing : Session := (Session.new .standard (.singleBase .origin)).after
  [.start { Snapshot.blank with units := [probe] },
    .storeOrder ⟨21⟩ (.flagsAt (KeySet.empty.insert .worker) .move .startLocation),
    .install ⟨"homing", [⟨"home", ⟨21⟩, [⟨[]⟩]⟩]⟩]

/-- The session can come about. -/
theorem reachable_homing : homing.Reachable := ⟨_, _, _, rfl⟩

/-- The world in which the worker has changed sides. -/
def deserted : Snapshot := { Snapshot.blank with units := [deserter] }

/-- What the rule does in this world. -/
def home : LoggedRun := ⟨⟨⟨21⟩, none, true⟩, [.single ⟨7⟩ .move (.point .origin)]⟩

/-- The worker finds no minerals, and then the rule sends it home. -/
theorem log_homing : homing.log deserted = [⟨⟨⟨1⟩, some ⟨7⟩, false⟩, []⟩, home] := rfl

/-- The rule to go home is run in the tick. -/
theorem home_mem_log : home ∈ homing.log deserted := by
  rw [log_homing]
  exact List.mem_cons_of_mem _ List.mem_cons_self

/-- The run is one of a rule. -/
theorem home_mem_rules : home.run ∈ (homing.playTick deserted).rules := by decide

end SmallGame

/-- The rule of the small game may address the worker that has changed sides, since it is for agents
and the worker is one. -/
theorem Session.Reachable.rules_command_homing :
    ∃ intent tag, SmallGame.homing.book.intent? ⟨21⟩ = some intent ∧
      (Command.single ⟨7⟩ .move (.point .origin)).IsFor tag ∧
        intent.MayAddress SmallGame.deserted SmallGame.homing.roster tag :=
  SmallGame.reachable_homing.rules_command SmallGame.deserted (by decide) _
    SmallGame.home_mem_log SmallGame.home_mem_rules _ List.mem_cons_self

/-- That rules command only units of ours cannot be said: a worker that has changed sides is still
on the roster, and a rule for all workers commands it. -/
theorem Session.rules_may_command_deserters :
    ¬ ∀ session : Session, session.Reachable → ∀ snapshot : Snapshot,
      (snapshot.units.map (·.tag)).Nodup →
        ∀ entry ∈ session.log snapshot, entry.run ∈ (session.playTick snapshot).rules →
          ∀ command ∈ entry.commands, ∀ tag ∈ command.units,
            ∃ unit, snapshot.unit? tag = some unit ∧ unit.isOwn = true := by
  intro loyal
  obtain ⟨unit, hunit, hown⟩ := loyal SmallGame.homing SmallGame.reachable_homing
    SmallGame.deserted (by decide) _ SmallGame.home_mem_log SmallGame.home_mem_rules _
    List.mem_cons_self ⟨7⟩ List.mem_cons_self
  obtain rfl : SmallGame.deserter = unit := Option.some.inj hunit
  cases hown

end Skirmish
