import Skirmish.Proofs.Order.Selection
import Skirmish.Proofs.Session.CrossReference
import Skirmish.Proofs.Session.IdlePhase
import Skirmish.Proofs.World.Relisting

/-!
# Builders are left alone

Once a unit has been told to build a structure, no later command of the tick calls it off, and rules
command no unit that the snapshot shows at work on one: this is `builders_undisturbed`.

## Shape of the proof

In the idle phase no unit is commanded twice. In the rule phase an order looks for its units in three
ways, each with a test of its own; `Outbox.NotBuilding` is what all of them imply for the units that
they find (`Intent.notBuilding_of_mem_assignments`). It is about the commands issued before the order
is run, so that it carries from one run to the next, and since an order commands no unit twice
(`Intent.nodup_assignments`) its own commands do not disturb each other.
-/

namespace Skirmish

/-! ## Units that are not building -/

/-- Whether no unit with a tag is building a structure, going by the snapshot and by the commands. -/
structure Outbox.NotBuilding (outbox : Outbox) (snapshot : Snapshot) (tag : UnitTag) : Prop where
  seen : ∀ unit ∈ snapshot.units, unit.tag = tag →
    unit.activities.any (·.ability.buildsStructure) = false
  told : ∀ command ∈ outbox, command.addresses tag = true →
    command.ability.buildsStructure = false

namespace Outbox

variable {outbox : Outbox} {snapshot : Snapshot} {unit : UnitView}

/-- A unit of the snapshot that is not constructing is not building. -/
theorem NotBuilding.of_isConstructing (distinct : (snapshot.units.map (·.tag)).Nodup)
    (hunit : unit ∈ snapshot.units) (h : outbox.isConstructing unit = false) :
    outbox.NotBuilding snapshot unit.tag := by
  obtain ⟨hseen, htold⟩ := Bool.or_eq_false_iff.mp h
  constructor
  · intro other hother htag
    rw [Snapshot.eq_of_tag_eq distinct hother hunit htag]
    exact hseen
  · intro command hcommand haddresses
    have hnot := List.any_eq_false.mp htold command hcommand
    rw [haddresses, Bool.true_and] at hnot
    exact Bool.eq_false_iff.mpr hnot

end Outbox

/-! ## The units that an order finds -/

section

variable {intent : Intent} {situation : Situation} {dispatch : Dispatch}
  (distinct : (situation.snapshot.units.map (·.tag)).Nodup)
include distinct

/-- A unit that is free is not building. -/
theorem Intent.notBuilding_of_isFree {outbox : Outbox} {tag : UnitTag}
    (h : intent.isFree situation outbox tag = true) :
    outbox.NotBuilding situation.snapshot tag := by
  obtain ⟨unit, hunit, hfree⟩ := intent.unit?_of_isFree h
  obtain ⟨hmem, rfl⟩ := Snapshot.mem_of_unit? hunit
  exact .of_isConstructing distinct hmem (Outbox.isConstructing_of_pendingFor hfree)

/-- **A unit that an order finds by itself is not building.** -/
theorem Intent.notBuilding_of_mem_assignments {choice : UnitTag × CommandTarget}
    (h : choice ∈ (intent.assignments situation dispatch).1) :
    dispatch.outbox.NotBuilding situation.snapshot choice.1 := by
  unfold assignments at h
  cases hassignee : intent.assignee with
  | fallback =>
    rw [hassignee] at h
    cases h
  | unitType type =>
    rw [hassignee] at h
    -- The search for a type leaves out who is constructing, also by a command of this tick.
    obtain ⟨unit, hown, htag, -, hfree⟩ :=
      intent.exists_unit_of_assignment (Option.mem_toList.mp h)
    rw [← htag]
    exact .of_isConstructing distinct (List.mem_filter.mp hown).1 hfree
  | flags capabilities | group name =>
    rw [hassignee] at h
    exact notBuilding_of_isFree distinct (intent.isFree_of_mem_targetEach h).2

end

/-! ## The commands of a tick -/

/-- Whether no unit is commanded again after it has been told to build a structure. -/
def Outbox.Undisturbed (outbox : Outbox) : Prop :=
  outbox.Pairwise fun earlier later => earlier.ability.buildsStructure = true →
    ∀ tag, earlier.addresses tag = true → later.addresses tag = false

/-- Whether a command leaves those alone that the snapshot shows at work on a structure. -/
def Command.Spares (command : Command) (snapshot : Snapshot) : Prop :=
  ∀ unit ∈ snapshot.units, command.addresses unit.tag = true →
    unit.activities.any (·.ability.buildsStructure) = false

/-- Commands of which no two are for the same unit do not disturb each other. -/
theorem Outbox.undisturbed_map {α : Type} {entries : List α} {tagOf : α → UnitTag}
    {command : α → Command} (nodup : (entries.map tagOf).Nodup)
    (hfor : ∀ entry ∈ entries, (command entry).IsFor (tagOf entry)) :
    Undisturbed (entries.map command) := by
  refine List.pairwise_map.mpr ?_
  refine (List.pairwise_map.mp nodup).imp_of_mem ?_
  intro a b ha hb hne _ tag haddresses
  have htag : tag = tagOf a := (hfor a ha tag).mp haddresses
  refine Bool.eq_false_iff.mpr fun hagain => hne ?_
  rw [← htag, ← (hfor b hb tag).mp hagain]

namespace Session

variable {session : Session} {snapshot : Snapshot}

/-- No turn of the queue disturbs a builder. -/
theorem undisturbed_runQueue {queue : List (UnitTag × OrderId)} (nodup : (queue.map (·.1)).Nodup)
    (quiet : session.outbox = []) :
    Outbox.Undisturbed (runQueue snapshot queue session).2.outbox := by
  obtain ⟨issued, houtbox, hsub, hfor⟩ := outbox_runQueue snapshot queue session
  rw [houtbox, quiet, List.nil_append]
  exact Outbox.undisturbed_map (hsub.nodup nodup) hfor

section

variable (distinct : (snapshot.units.map (·.tag)).Nodup)
include distinct

/-- The commands of a rule are for units that are not building. -/
theorem notBuilding_of_run {id : OrderId} {command : Command}
    (h : command ∈ (session.run snapshot id none).2.issuedSince session) :
    ∃ tag, command.IsFor tag ∧ session.outbox.NotBuilding snapshot tag := by
  cases hid : session.book.orders.get? id with
  | none =>
    rw [issuedSince_run_of_missing hid] at h
    cases h
  | some order =>
    rw [issuedSince_run hid] at h
    obtain ⟨choice, hchoice, rfl⟩ := List.mem_map.mp h
    exact ⟨choice.1, order.isFor_command choice,
      Intent.notBuilding_of_mem_assignments distinct hchoice⟩

/-- Running a rule disturbs nobody. -/
theorem undisturbed_run (h : Outbox.Undisturbed session.outbox) (id : OrderId) :
    Outbox.Undisturbed (session.run snapshot id none).2.outbox := by
  rw [outbox_run]
  refine List.pairwise_append.mpr ⟨h, ?_, ?_⟩
  · cases hid : session.book.orders.get? id with
    | none =>
      rw [issuedSince_run_of_missing hid]
      exact List.Pairwise.nil
    | some order =>
      have nodup := order.intent.nodup_assignments (session.situation snapshot) session.dispatch
      rw [issuedSince_run hid]
      exact Outbox.undisturbed_map nodup fun choice _ => order.isFor_command choice
  · intro earlier hearlier later hlater hbuilds tag haddresses
    obtain ⟨t, hfor, hnot⟩ := notBuilding_of_run distinct hlater
    refine Bool.eq_false_iff.mpr fun hagain => ?_
    obtain rfl := (hfor tag).mp hagain
    rw [hnot.told earlier hearlier haddresses] at hbuilds
    cases hbuilds

/-- No rule disturbs a builder. -/
theorem undisturbed_runRules (ids : List OrderId) (h : Outbox.Undisturbed session.outbox) :
    Outbox.Undisturbed (runRules snapshot ids session).2.outbox := by
  induction ids generalizing session with
  | nil => exact h
  | cons id ids ih => exact ih (undisturbed_run distinct h id)

/-- The commands of rules are for units that the snapshot does not show at work on a structure. -/
theorem spares_runRules (ids : List OrderId) (session : Session) : ∃ commands,
    (runRules snapshot ids session).2.outbox = session.outbox ++ commands ∧
      ∀ command ∈ commands, command.Spares snapshot := by
  induction ids generalizing session with
  | nil => exact ⟨[], (List.append_nil _).symm, by simp⟩
  | cons id ids ih =>
    obtain ⟨commands, houtbox, hspares⟩ := ih (session.run snapshot id none).2
    refine ⟨(session.run snapshot id none).2.issuedSince session ++ commands, ?_, ?_⟩
    · rw [← List.append_assoc, ← outbox_run]
      exact houtbox
    · intro command hcommand
      rcases List.mem_append.mp hcommand with hissued | hlater
      · intro unit hunit haddresses
        obtain ⟨tag, hfor, hnot⟩ := notBuilding_of_run distinct hissued
        exact hnot.seen unit hunit ((hfor unit.tag).mp haddresses)
      · exact hspares command hlater

end

/-- **Builders are left alone.** The commands of a tick are those of its idle phase and then those of
its rule phase. Once a command to build a structure has been sent to a unit, none of the commands
after it is for that unit, and no command of the rule phase is for a unit that the snapshot shows at
work on a structure. -/
theorem Reachable.builders_undisturbed (reached : session.Reachable) (snapshot : Snapshot)
    (distinct : (snapshot.units.map (·.tag)).Nodup) :
    (session.step snapshot).sent =
        (session.between snapshot).outbox ++
          (session.playTick snapshot).session.issuedSince (session.between snapshot) ∧
      (session.step snapshot).sent.Pairwise (fun earlier later =>
        earlier.ability.buildsStructure = true →
          ∀ tag, earlier.addresses tag = true → later.addresses tag = false) ∧
      ∀ command ∈ (session.playTick snapshot).session.issuedSince (session.between snapshot),
        ∀ unit ∈ snapshot.units, command.addresses unit.tag = true →
          unit.activities.any (·.ability.buildsStructure) = false := by
  have hidle : Outbox.Undisturbed (session.between snapshot).outbox := by
    rw [between_eq]
    exact undisturbed_runQueue session.roster.nodup_queue reached.quiet
  -- The queue has each agent once, while rules look for units that are not building.
  obtain ⟨commands, houtbox, hspares⟩ := spares_runRules distinct
    ((session.between snapshot).firing snapshot) (session.between snapshot)
  have hsent : (session.step snapshot).sent = (session.between snapshot).outbox ++ commands :=
    houtbox
  have hissued : (session.playTick snapshot).session.issuedSince (session.between snapshot) =
      commands := by
    rw [issuedSince]
    exact (congrArg (List.drop _) houtbox).trans List.drop_left
  refine ⟨by rw [hissued, hsent], undisturbed_runRules distinct _ hidle, ?_⟩
  rw [hissued]
  exact hspares

end Session

/-- The session of the small game with two rules that each want a pylon at once. -/
def SmallGame.eager : Session := (Session.new .standard (.singleBase .origin)).after
  [.start snapshot, .storeOrder ⟨21⟩ { pylon with multiplicity := .allowMultiple },
    .storeOrder ⟨22⟩ { pylon with multiplicity := .allowMultiple },
    .install ⟨"eager", [⟨"first", ⟨21⟩, [⟨[]⟩]⟩, ⟨"second", ⟨22⟩, [⟨[]⟩]⟩]⟩]

/-- The first rule sends the free worker to build a pylon. The second rule finds nobody: it calls
neither this worker off nor the one that is on its way already. -/
theorem Session.Reachable.builders_undisturbed_eager :
    (SmallGame.eager.step SmallGame.building).sent.map (·.ability) = [.smart, .buildPylon] ∧
      (SmallGame.eager.step SmallGame.building).sent.Pairwise (fun earlier later =>
        earlier.ability.buildsStructure = true →
          ∀ tag, earlier.addresses tag = true → later.addresses tag = false) ∧
      ∀ command ∈ (SmallGame.eager.playTick SmallGame.building).session.issuedSince
        (SmallGame.eager.between SmallGame.building), command.addresses ⟨8⟩ = false := by
  have reached : SmallGame.eager.Reachable := ⟨_, _, _, rfl⟩
  have distinct : (SmallGame.building.units.map (·.tag)).Nodup := by decide
  obtain ⟨-, hpairwise, hspares⟩ := reached.builders_undisturbed SmallGame.building distinct
  refine ⟨by decide, hpairwise, ?_⟩
  intro command hcommand
  refine Bool.eq_false_iff.mpr fun haddresses => ?_
  have hbuilding := hspares command hcommand
    { SmallGame.probe with tag := ⟨8⟩, activities := [.untargeted .buildPylon] }
    List.mem_cons_self haddresses
  cases hbuilding

end Skirmish
