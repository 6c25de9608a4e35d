import Skirmish.Proofs.Roster.Identity
import Skirmish.Proofs.Session.Numbering
import Skirmish.Proofs.Session.Steady

/-!
# Who is on the roster

A unit of ours goes on the roster when the game starts with it or when it appears, and leaves the
roster when it is destroyed; nothing else enlists or removes anyone. `Session.Lifecycle` says this
of a session and of the events that have led to it, together with what an agent is for life, how it
starts, and that enlisting it again does nothing. It holds after any events (`lifecycle`).

## Shape of the proof

`Roster.Follows` says what a change to the roster does to one tag: whether the tag is listed
afterwards, that the agent stays who it is, and that a newcomer starts out as one. Most events leave
the identities of all agents as they are, which is enough (`Follows.of_view?_eq`). Enlisting several
units leaves all other agents untouched, so that it can be done one by one (`Enlists.trans`).
-/

namespace Skirmish

/-! ## Changes to the roster -/

namespace Roster

variable {before middle after : Roster} {tag : UnitTag} {enters joins leaves : Prop}

/-- What happens to the agent with a tag if it is known whether it enters or leaves. -/
structure Follows (before after : Roster) (tag : UnitTag) (enters leaves : Prop) : Prop where
  contains_iff : after.contains tag = true ↔ enters ∨ before.contains tag = true ∧ ¬ leaves
  identity : before.contains tag = true → ¬ leaves →
    after.view? Agent.identity tag = before.view? Agent.identity tag
  newcomer : before.contains tag = false →
    ∀ agent, after.get? tag = some agent → agent.IsNewcomer

/-- Nobody enters or leaves while all agents stay who they are. -/
theorem Follows.of_view?_eq (h : after.view? Agent.identity = before.view? Agent.identity)
    (tag : UnitTag) : before.Follows after tag False False := by
  have hcontains : after.contains tag = before.contains tag :=
    contains_eq_of_view?_eq (congrFun h tag)
  refine ⟨by simp [hcontains], fun _ _ => congrFun h tag, fun new agent hagent => ?_⟩
  rw [← hcontains, Table.contains, hagent] at new
  cases new

/-- What happens to the agent with a tag while others may enter: it stays as it is, or it enters. -/
structure Enlists (before after : Roster) (tag : UnitTag) (enters : Prop) : Prop where
  kept : ∀ agent, before.get? tag = some agent → after.get? tag = some agent
  entered : before.get? tag = none →
    after.get? tag = none ∧ ¬ enters ∨
      enters ∧ ∃ agent, after.get? tag = some agent ∧ agent.IsNewcomer

namespace Enlists

theorem refl (known : enters → before.contains tag = true) : before.Enlists before tag enters := by
  refine ⟨fun _ h => h, fun hnone => Or.inl ⟨hnone, fun henters => ?_⟩⟩
  have hknown := known henters
  rw [Table.contains, hnone] at hknown
  cases hknown

/-- Who enters in two stretches enters in either. -/
theorem trans (h₁ : before.Enlists middle tag enters) (h₂ : middle.Enlists after tag joins) :
    before.Enlists after tag (enters ∨ joins) := by
  refine ⟨fun agent hagent => h₂.kept agent (h₁.kept agent hagent), fun hnone => ?_⟩
  rcases h₁.entered hnone with ⟨hstill, hnot⟩ | ⟨henters, agent, hagent, hnew⟩
  · rcases h₂.entered hstill with ⟨hafter, hnot'⟩ | ⟨hjoins, hafter⟩
    · exact Or.inl ⟨hafter, not_or.mpr ⟨hnot, hnot'⟩⟩
    · exact Or.inr ⟨Or.inr hjoins, hafter⟩
  · exact Or.inr ⟨Or.inl henters, agent, h₂.kept agent hagent, hnew⟩

/-- Enlisting a newcomer under a free tag lets that tag enter. -/
theorem insert {fresh : UnitTag} (new : before.contains fresh = false) {agent : Agent}
    (newcomer : agent.IsNewcomer) :
    before.Enlists (Table.insert before fresh agent) tag (fresh = tag) := by
  have hnone : before.get? fresh = none := Table.contains_eq_false_iff.mp new
  constructor
  · intro old hold
    rw [Table.get?_insert, if_neg, hold]
    rintro rfl
    rw [hnone] at hold
    cases hold
  · intro hmissing
    rw [Table.get?_insert]
    split
    · rename_i htag
      exact Or.inr ⟨htag.symm, agent, rfl, newcomer⟩
    · rename_i htag
      exact Or.inl ⟨hmissing, fun h => htag h.symm⟩

/-- Where others may only enter, nobody leaves. -/
theorem follows (h : before.Enlists after tag enters) : before.Follows after tag enters False := by
  cases hget : before.get? tag with
  | some agent =>
    have hafter := h.kept agent hget
    constructor
    · simp [Table.contains, hget, hafter]
    · intro _ _
      rw [view?, view?, hget, hafter]
    · intro new
      rw [Table.contains, hget] at new
      cases new
  | none =>
    -- Who was not there before is there now just if it has entered.
    rcases h.entered hget with ⟨hafter, hnot⟩ | ⟨henters, agent, hafter, hnew⟩
    · constructor
      · simp [Table.contains, hget, hafter, hnot]
      · intro known
        rw [Table.contains, hget] at known
        cases known
      · intro _ agent hagent
        rw [hafter] at hagent
        cases hagent
    · constructor
      · simp [Table.contains, hafter, henters]
      · intro known
        rw [Table.contains, hget] at known
        cases known
      · intro _ other hother
        rw [hafter] at hother
        rwa [← Option.some.inj hother]

end Enlists

/-- Nothing happens if whoever is to leave is not there. -/
theorem Follows.refl (absent : leaves → before.contains tag = false) :
    before.Follows before tag False leaves := by
  have hstays : before.contains tag = true → ¬ leaves := by
    intro known hleaves
    rw [absent hleaves] at known
    cases known
  refine ⟨?_, fun _ _ => rfl, fun new agent hagent => ?_⟩
  · rw [false_or]
    exact (and_iff_left_of_imp hstays).symm
  · rw [Table.contains, hagent] at new
    cases new

/-- Taking an agent off the roster lets that one leave. -/
theorem Follows.erase (before : Roster) (gone tag : UnitTag) :
    before.Follows (Table.erase before gone) tag False (gone = tag) := by
  by_cases htag : gone = tag
  · subst htag
    have hnone : (Table.erase before gone).get? gone = none := by
      rw [Table.get?_erase, if_pos rfl]
    constructor
    · simp [Table.contains, hnone]
    · exact fun _ hstays => absurd rfl hstays
    · intro _ agent hagent
      rw [hnone] at hagent
      cases hagent
  · -- Every other agent is found as before.
    have hsame : (Table.erase before gone).get? tag = before.get? tag := by
      rw [Table.get?_erase, if_neg fun h => htag h.symm]
    constructor
    · simp [Table.contains, hsame, htag]
    · intro _ _
      rw [view?, view?, hsame]
    · intro new agent hagent
      rw [Table.contains, ← hsame, hagent] at new
      cases new

/-- What has left the identities as they are makes no difference. -/
theorem Follows.of_view?_eq_left (same : middle.view? Agent.identity = before.view? Agent.identity)
    (h : middle.Follows after tag enters leaves) : before.Follows after tag enters leaves := by
  have hcontains : middle.contains tag = before.contains tag :=
    contains_eq_of_view?_eq (congrFun same tag)
  refine ⟨?_, fun known stays => ?_, fun new => h.newcomer (hcontains.trans new)⟩
  · rw [← hcontains]
    exact h.contains_iff
  · rw [h.identity (hcontains.trans known) stays, same]

end Roster

/-! ## Who enters and who leaves -/

namespace Agent

/-- Running orders does not change who an agent is. -/
theorem steady_identity : Steady identity where
  position _ _ := rfl
  withoutFollowUp _ := rfl
  edit := identity_edit
  takenUpBy := identity_takenUpBy

theorem identity_gatherGas (agent : Agent) (order : OrderId) :
    (agent.gatherGas order).identity = agent.identity :=
  ((agent.lose .mineralGatherer).identity_gain rfl).trans (agent.identity_lose rfl)

end Agent

namespace Event

/-- Whether an event enlists the unit with a tag, unless it is on the roster. -/
def Registers (tag : UnitTag) : Event → Prop
  | .start snapshot => ∃ unit ∈ snapshot.units, unit.isOwn = true ∧ unit.tag = tag
  | .created unit => unit.isOwn = true ∧ unit.tag = tag
  | _ => False

/-- Whether an event removes the unit with a tag. -/
def Removes (tag : UnitTag) : Event → Prop
  | .destroyed unit => unit.isOwn = true ∧ unit.tag = tag
  | _ => False

end Event

namespace Session

variable {session : Session}

/-- Recruiting lets the unit enter. -/
theorem enlists_recruit {unit : UnitView} (new : session.roster.contains unit.tag = false)
    (agent : Agent) (newcomer : agent.IsNewcomer) (place : Place) (tag : UnitTag) :
    session.roster.Enlists (session.recruit unit agent place).roster tag (unit.tag = tag) := by
  by_cases worker : unit.category = .worker
  · rw [recruit_of_worker new worker]
    exact .insert new ⟨newcomer.isIdle, newcomer.current, newcomer.followUp, newcomer.groups⟩
  · rw [recruit_of_other new worker]
    exact .insert new newcomer

/-- Welcoming units lets these units enter. -/
theorem enlists_welcomeAll (units : List UnitView) (session : Session) (tag : UnitTag) :
    session.roster.Enlists (units.foldl welcome session).roster tag
      (∃ unit ∈ units, unit.tag = tag) := by
  induction units generalizing session with
  | nil => exact .refl (by simp)
  | cons unit units ih =>
    have hfirst : session.roster.Enlists (session.welcome unit).roster tag (unit.tag = tag) := by
      unfold welcome
      split
      · rename_i known
        exact .refl fun htag => htag ▸ known
      · rename_i new
        exact enlists_recruit (Bool.eq_false_iff.mpr new) _ (Agent.isNewcomer_ofUnit unit) _ tag
    simp only [List.mem_cons, exists_eq_or_imp]
    exact hfirst.trans (ih (session.welcome unit))

theorem follows_start (session : Session) (snapshot : Snapshot) (tag : UnitTag) :
    session.roster.Follows (session.start snapshot).session.roster tag
      (Event.Registers tag (.start snapshot)) False := by
  have hlisted : Event.Registers tag (.start snapshot) =
      ∃ unit ∈ snapshot.ownUnits, unit.tag = tag := by
    simp only [Event.Registers, Snapshot.ownUnits, List.mem_filter, and_assoc]
  rw [hlisted]
  exact (enlists_welcomeAll snapshot.ownUnits session tag).follows

theorem follows_created (session : Session) (unit : UnitView) (tag : UnitTag) :
    session.roster.Follows (session.created unit).session.roster tag
      (Event.Registers tag (.created unit)) False := by
  rcases session.created_cases unit with
    ⟨hignored, hsame⟩ | ⟨own, ready, home, post, place, hready, new, hcreated⟩
  · rw [hsame]
    refine Roster.Enlists.follows (.refl ?_)
    rintro ⟨own, rfl⟩
    rcases hignored with hforeign | hknown
    · rw [own] at hforeign
      cases hforeign
    · exact hknown
  · -- What is done before the unit is registered changes nobody's identity.
    have hnew := Agent.isNewcomer_ofUnit unit
    have hrecruit := enlists_recruit new { Agent.ofUnit unit with home, post }
      ⟨hnew.isIdle, hnew.current, hnew.followUp, hnew.groups⟩ place tag
    have hview : ready.roster.view? Agent.identity = session.roster.view? Agent.identity :=
      hready.view? fun agent => agent.identity_lose rfl
    simp only [Event.Registers, own, true_and]
    rw [hcreated]
    exact hrecruit.follows.of_view?_eq_left hview

/-- A unit of ours that was destroyed is removed. -/
theorem follows_destroyed (session : Session) (unit : UnitView) (tag : UnitTag) :
    session.roster.Follows (session.destroyed unit).session.roster tag False
      (Event.Removes tag (.destroyed unit)) := by
  simp only [destroyed, Event.Removes]
  cases own : unit.isOwn with
  | false => exact .refl fun h => by cases h.1
  | true =>
    cases known : session.roster.contains unit.tag with
    | false =>
      refine .refl ?_
      rintro ⟨-, rfl⟩
      exact known
    | true =>
      simp only [true_and]
      exact .erase session.roster unit.tag tag

theorem identity_becameIdle (session : Session) (tag : UnitTag) :
    (session.becameIdle tag).session.roster.view? Agent.identity =
      session.roster.view? Agent.identity := by
  unfold becameIdle
  split
  · rfl
  · rw [unassign_eq_unassignAll]
    exact Roster.view?_modify fun _ => rfl

theorem identity_completed (session : Session) (unit : UnitView) :
    (session.completed unit).session.roster.view? Agent.identity =
      session.roster.view? Agent.identity := by
  cases gas : unit.unitType.isGasStructure with
  | true =>
    rw [completed_of_isGasStructure gas]
    show ((session.gasCrew unit _).foldl (sendToGas unit) session).roster.view? Agent.identity = _
    generalize session.gasCrew unit _ = crew
    induction crew generalizing session with
    | nil => rfl
    | cons tag crew ih =>
      rw [List.foldl_cons, ih]
      exact Roster.view?_modify fun agent => agent.identity_gatherGas _
  | false =>
    obtain ⟨layout, roster, outbox, hcompleted, rfl | rfl⟩ :=
      completed_of_not_isGasStructure gas session
    · rw [hcompleted]
    · rw [hcompleted]
      exact Roster.view?_modify fun agent => agent.identity_gain rfl

/-- Whatever takes ids leaves the roster alone. -/
theorem roster_of_takes {after : Session} {count : Nat} (takes : session.Takes after count) :
    after.roster = session.roster := by
  obtain ⟨strategy, orders, -, rfl⟩ := takes
  rfl

/-- **What an event does to the roster.** -/
theorem follows_react (session : Session) (event : Event) (tag : UnitTag) :
    session.roster.Follows (session.react event).roster tag (event.Registers tag)
      (event.Removes tag) := by
  have hsteady : ∀ {after : Session},
      after.roster.view? Agent.identity = session.roster.view? Agent.identity →
        session.roster.Follows after.roster tag False False :=
    fun same => .of_view?_eq same tag
  -- Only the start and a created unit register, and only a destroyed one is removed.
  cases event with
  | start snapshot => exact session.follows_start snapshot tag
  | tick snapshot => exact hsteady (view?_playTick Agent.steady_identity session snapshot)
  | created unit => exact session.follows_created unit tag
  | completed unit => exact hsteady (session.identity_completed unit)
  | damaged snapshot unit => exact hsteady (by rw [react, damaged_eq])
  | becameIdle idle => exact hsteady (session.identity_becameIdle idle)
  | destroyed unit => exact session.follows_destroyed unit tag
  | install rules => exact hsteady (by rw [react, roster_of_takes (session.takes_install rules)])
  | loadStrategy text =>
    exact hsteady (by rw [react, roster_of_takes (session.takes_loadStrategy text)])
  | loadOpening => exact hsteady (by rw [react, roster_of_takes session.takes_loadOpening])
  | storeLocation name location => exact hsteady rfl
  | storeUnitType name unitType => exact hsteady rfl
  | orderMade => exact hsteady rfl
  | storeOrder id intent => exact hsteady rfl
  | attachBundle outer id intent =>
    refine hsteady ?_
    simp only [react]
    split <;> rfl

/-! ## The roster after several events -/

/-- Whether some event enlists the unit with a tag, and no later one removes it. -/
def EnlistedBy (events : List Event) (tag : UnitTag) : Prop :=
  ∃ earlier event later, events = earlier ++ event :: later ∧ event.Registers tag ∧
    ∀ other ∈ later, ¬ other.Removes tag

/-- Who is enlisted in a sequence is so by the others, or by the first event and not removed
afterwards. -/
theorem enlistedBy_cons {event : Event} {events : List Event} {tag : UnitTag} :
    EnlistedBy (event :: events) tag ↔
      EnlistedBy events tag ∨ event.Registers tag ∧ ∀ other ∈ events, ¬ other.Removes tag := by
  constructor
  · rintro ⟨earlier, last, later, hevents, hregisters, hkept⟩
    cases earlier with
    | nil =>
      obtain ⟨rfl, rfl⟩ := List.cons.inj hevents
      exact Or.inr ⟨hregisters, hkept⟩
    | cons first earlier =>
      obtain ⟨-, rfl⟩ := List.cons.inj hevents
      exact Or.inl ⟨earlier, last, later, rfl, hregisters, hkept⟩
  · rintro (⟨earlier, last, later, rfl, hregisters, hkept⟩ | ⟨hregisters, hkept⟩)
    · exact ⟨event :: earlier, last, later, rfl, hregisters, hkept⟩
    · exact ⟨[], event, events, rfl, hregisters, hkept⟩

/-- **Who is on the roster after several events**: those that have been enlisted and not removed
since, and those that were there before and have not been removed. -/
theorem contains_after (session : Session) (events : List Event) (tag : UnitTag) :
    (session.after events).roster.contains tag = true ↔
      EnlistedBy events tag ∨
        session.roster.contains tag = true ∧ ∀ event ∈ events, ¬ event.Removes tag := by
  induction events generalizing session with
  | nil =>
    have hnone : ¬ EnlistedBy [] tag := by
      rintro ⟨earlier, event, later, hevents, -⟩
      exact List.cons_ne_nil _ _ (List.append_eq_nil_iff.mp hevents.symm).2
    simp [hnone, after]
  | cons event events ih =>
    show ((session.react event).after events).roster.contains tag = true ↔ _
    rw [ih, (session.follows_react event tag).contains_iff, enlistedBy_cons, List.forall_mem_cons,
      or_and_right, or_assoc, and_assoc]

/-- **An agent stays who it is as long as it is not removed.** -/
theorem identity_after (session : Session) {events : List Event} {tag : UnitTag}
    (known : session.roster.contains tag = true) (kept : ∀ event ∈ events, ¬ event.Removes tag) :
    (session.after events).roster.view? Agent.identity tag =
      session.roster.view? Agent.identity tag := by
  induction events generalizing session with
  | nil => rfl
  | cons event events ih =>
    obtain ⟨hstays, hkept⟩ := List.forall_mem_cons.mp kept
    have hfollows := session.follows_react event tag
    have hknown := hfollows.contains_iff.mpr (Or.inr ⟨known, hstays⟩)
    exact (ih (session.react event) hknown hkept).trans (hfollows.identity known hstays)

/-! ## Enlisting again -/

/-- A unit that is known already is not created again. -/
theorem created_of_contains {unit : UnitView} (known : session.roster.contains unit.tag = true) :
    session.created unit = session.silent 0 := by
  simp [created, known]

/-- Units that are known already are not welcomed again. -/
theorem welcomeAll_of_contains {units : List UnitView}
    (known : ∀ unit ∈ units, session.roster.contains unit.tag = true) :
    units.foldl welcome session = session := by
  induction units with
  | nil => rfl
  | cons unit units ih =>
    obtain ⟨hfirst, hrest⟩ := List.forall_mem_cons.mp known
    rw [List.foldl_cons, welcome, if_pos hfirst, ih hrest]

/-- If all our units are on the roster the start of the game takes the start base and that is all. -/
theorem start_of_contains {snapshot : Snapshot} (quiet : session.outbox = [])
    (known : ∀ unit ∈ snapshot.units, unit.isOwn = true →
      session.roster.contains unit.tag = true) :
    session.start snapshot =
      { session with
        layout := session.layout.activate session.layout.startBase.toNat }.silent 0 := by
  have hwelcome : snapshot.ownUnits.foldl welcome session = session := by
    refine welcomeAll_of_contains fun unit hunit => ?_
    obtain ⟨hmem, own⟩ := List.mem_filter.mp hunit
    exact known unit hmem own
  simp only [start, hwelcome, flush, silent, quiet, List.length_nil]

/-! ## The life of an agent -/

/-- What is known of the roster of a session that certain events have led to. -/
structure Lifecycle (session : Session) (events : List Event) : Prop where
  /-- The roster lists those that have been enlisted and not removed since. -/
  contains_iff : ∀ tag, session.roster.contains tag = true ↔ EnlistedBy events tag
  /-- An agent stays who it is until it is removed. -/
  identity : ∀ tag later, session.roster.contains tag = true →
    (∀ event ∈ later, ¬ event.Removes tag) →
      (session.after later).roster.view? Agent.identity tag =
        session.roster.view? Agent.identity tag
  /-- A unit that is on the roster and appears again changes nothing at all. -/
  created_again : ∀ unit, session.roster.contains unit.tag = true →
    session.created unit = session.silent 0
  /-- A game that starts again with nobody new takes the start base and changes nothing else. -/
  started_again : ∀ snapshot : Snapshot,
    (∀ unit ∈ snapshot.units, unit.isOwn = true → session.roster.contains unit.tag = true) →
      session.start snapshot =
        { session with
          layout := session.layout.activate session.layout.startBase.toNat }.silent 0
  /-- Whoever enters, for the first time or again, has nothing to do and is in no group. -/
  newcomer : ∀ event tag agent, session.roster.contains tag = false →
    (session.react event).roster.get? tag = some agent → agent.IsNewcomer

/-- **The roster follows the events.** -/
theorem lifecycle (config : Config) (layout : Layout) (events : List Event) :
    ((Session.new config layout).after events).Lifecycle events where
  contains_iff tag := by
    have hempty : (Session.new config layout).roster.contains tag = false := rfl
    rw [contains_after, hempty]
    simp
  identity tag later known kept := identity_after _ known kept
  created_again unit := created_of_contains
  started_again snapshot := start_of_contains (Reachable.quiet ⟨config, layout, events, rfl⟩)
  newcomer event tag agent new := (follows_react _ event tag).newcomer new agent

end Session

/-- The worker of the small game starts over when it is destroyed and appears again. -/
example : ((SmallGame.session.after
    [.destroyed SmallGame.probe, .created SmallGame.probe]).roster.get? ⟨7⟩).map
      (fun agent => (agent.isIdle, agent.current)) = some (true, none) := by decide

end Skirmish
