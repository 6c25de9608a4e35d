import Skirmish.Proofs.Session.Run
import Skirmish.Session.Step

/-!
# The log of a tick

The report of a tick counts its runs, and the reply lists its commands; neither says which run has
issued which command. `Session.log` says both at once: it lists the runs of a tick in their order,
each with the commands that it has added to the outbox. Leaving out the commands gives the runs of
the tick (`log_runs`), and leaving out the runs gives the commands that are sent (`sent_step`).

Both phases are recursions over a list, one of agents and one of rules. `tick_induction` does the
induction over them once: what holds of every change to the roster that keeps the duties, and of
every run, and is kept when one follows the other, holds of a whole tick.
-/

namespace Skirmish

/-- A run together with the commands that it has issued. -/
structure LoggedRun where
  run : Session.Run
  commands : List Command

namespace Session

variable {session : Session}

/-! ## The log -/

/-- The commands that are in the outbox now and were not before. -/
def issuedSince (after before : Session) : List Command := after.outbox.drop before.outbox.length

/-- The log of the runs of several idle agents. -/
def logIdle (snapshot : Snapshot) : List UnitTag → Session → List LoggedRun
  | [], _ => []
  | tag :: tags, session =>
    let (runs, after) := session.runIdle snapshot tag
    runs.map (fun run => ⟨run, after.issuedSince session⟩) ++ logIdle snapshot tags after

theorem logIdle_cons (snapshot : Snapshot) (tag : UnitTag) (tags : List UnitTag)
    (session : Session) :
    logIdle snapshot (tag :: tags) session =
      (session.runIdle snapshot tag).1.map
          (fun run => ⟨run, (session.runIdle snapshot tag).2.issuedSince session⟩) ++
        logIdle snapshot tags (session.runIdle snapshot tag).2 := rfl

/-- The log of the runs of several rules. -/
def logRules (snapshot : Snapshot) : List OrderId → Session → List LoggedRun
  | [], _ => []
  | id :: ids, session =>
    let (run, after) := session.run snapshot id none
    ⟨run, after.issuedSince session⟩ :: logRules snapshot ids after

/-- The session at the start of a tick, with every agent where the snapshot shows it. -/
def synced (session : Session) (snapshot : Snapshot) : Session :=
  { session with roster := session.roster.syncPositions snapshot }

/-- The session between the two phases of a tick. -/
def between (session : Session) (snapshot : Snapshot) : Session :=
  (runAllIdle snapshot (session.synced snapshot).roster.idle (session.synced snapshot)).2

/-- The runs of a tick in their order, each with the commands that it issues. -/
def log (session : Session) (snapshot : Snapshot) : List LoggedRun :=
  logIdle snapshot (session.synced snapshot).roster.idle (session.synced snapshot) ++
    logRules snapshot ((session.between snapshot).firing snapshot) (session.between snapshot)

/-! ## The runs of a tick -/

/-- Which rules fire depends on the strategy alone. -/
theorem firing_congr {after : Session} (h : after.strategy = session.strategy) :
    after.firing = session.firing := by
  funext snapshot
  rw [firing, firing, h]

/-- The log of idle agents is of the runs that they make. -/
theorem logIdle_runs (snapshot : Snapshot) (tags : List UnitTag) (session : Session) :
    (logIdle snapshot tags session).map (·.run) = (runAllIdle snapshot tags session).1 := by
  induction tags generalizing session with
  | nil => rfl
  | cons tag tags ih =>
    simp only [logIdle, runAllIdle, List.map_append, List.map_map, ih]
    congr 1
    exact List.map_id _

/-- The log of rules is of the runs that they make. -/
theorem logRules_runs (snapshot : Snapshot) (ids : List OrderId) (session : Session) :
    (logRules snapshot ids session).map (·.run) = (runRules snapshot ids session).1 := by
  induction ids generalizing session with
  | nil => rfl
  | cons id ids ih => simp only [logRules, runRules, List.map_cons, ih]

/-- Without the commands, the log lists the runs of the tick. -/
theorem log_runs (session : Session) (snapshot : Snapshot) :
    (session.log snapshot).map (·.run) =
      (session.playTick snapshot).idle ++ (session.playTick snapshot).rules := by
  rw [log, List.map_append, logIdle_runs, logRules_runs]
  rfl

/-! ## Induction over a tick -/

section Induction

variable {motive : Session → List LoggedRun → Session → Prop} {snapshot : Snapshot}
  (roster : ∀ session (roster : Roster), roster.duty? = session.roster.duty? →
    motive session [] { session with roster })
  (run : ∀ session id agent,
    motive session
      [⟨(session.run snapshot id agent).1, (session.run snapshot id agent).2.issuedSince session⟩]
      (session.run snapshot id agent).2)
  (append : ∀ session middle after first second, motive session first middle →
    motive middle second after → motive session (first ++ second) after)
include roster run append

/-- What holds of every run holds of what is due for an agent. -/
theorem runIdle_induction (session : Session) (tag : UnitTag) :
    motive session
      ((session.runIdle snapshot tag).1.map fun run =>
        ⟨run, (session.runIdle snapshot tag).2.issuedSince session⟩)
      (session.runIdle snapshot tag).2 := by
  unfold runIdle
  split
  · exact roster session session.roster rfl
  · split
    · exact roster session session.roster rfl
    · -- What follows is taken away first, and that issues nothing.
      rename_i id _
      have hpop := roster session (session.roster.modify tag (·.withoutFollowUp))
        (Roster.duty?_modify_of_duty_eq Agent.duty_withoutFollowUp)
      exact append _ _ _ _ _ hpop (run _ id (some tag))

/-- What holds of every run holds of all idle agents. -/
theorem runAllIdle_induction (tags : List UnitTag) (session : Session) :
    motive session (logIdle snapshot tags session) (runAllIdle snapshot tags session).2 := by
  induction tags generalizing session with
  | nil => exact roster session session.roster rfl
  | cons tag tags ih =>
    exact append _ _ _ _ _ (runIdle_induction roster run append session tag) (ih _)

/-- What holds of every run holds of all rules. -/
theorem runRules_induction (ids : List OrderId) (session : Session) :
    motive session (logRules snapshot ids session) (runRules snapshot ids session).2 := by
  induction ids generalizing session with
  | nil => exact roster session session.roster rfl
  | cons id ids ih => exact append _ _ _ _ _ (run session id none) (ih _)

/-- **Induction over a tick**: what holds of every change to the roster that keeps the duties, and
of every run, and is kept when one follows the other, holds of a whole tick with its log. -/
theorem tick_induction (session : Session) :
    motive session (session.log snapshot) (session.playTick snapshot).session := by
  have hsync := roster session _ (session.roster.duty?_syncPositions snapshot)
  have hidle := runAllIdle_induction roster run append (session.synced snapshot).roster.idle
    (session.synced snapshot)
  have hrules := runRules_induction roster run append
    ((session.between snapshot).firing snapshot) (session.between snapshot)
  have := append _ _ _ _ _ hsync (append _ _ _ _ _ hidle hrules)
  exact this

end Induction

/-- A tick changes no intent. -/
theorem playTick_keeps (keyed : session.book.Keyed) (snapshot : Snapshot) :
    (session.playTick snapshot).session.book.Keyed ∧
      (session.playTick snapshot).session.book.intent? = session.book.intent? := by
  refine tick_induction
    (motive := fun before _ after => before.book.Keyed →
      after.book.Keyed ∧ after.book.intent? = before.book.intent?) ?_ ?_ ?_ session keyed
  · intro session roster _ keyed
    exact ⟨keyed, rfl⟩
  · intro session id agent keyed
    obtain ⟨hkeyed, hintent, -⟩ := run_keeps keyed snapshot id agent
    exact ⟨hkeyed, hintent⟩
  · intro session middle after first second h₁ h₂ keyed
    obtain ⟨keyed, hintent⟩ := h₁ keyed
    obtain ⟨hkeyed, hintents⟩ := h₂ keyed
    exact ⟨hkeyed, hintents.trans hintent⟩

/-! ## The commands of a tick -/

/-- Running a stored order issues a command for each choice. -/
theorem issuedSince_run {id : OrderId} {order : Order}
    (h : session.book.orders.get? id = some order) (snapshot : Snapshot) (agent : Option UnitTag) :
    (session.run snapshot id agent).2.issuedSince session =
      (order.choices (session.situation snapshot) session.dispatch agent).1.map order.command := by
  have houtbox : (session.absorb
      (order.perform (session.situation snapshot) session.dispatch agent)).outbox =
        session.outbox ++ (order.choices (session.situation snapshot) session.dispatch
          agent).1.map order.command :=
    (order.performed_perform _ _ _).outbox
  rw [run_of_stored h, issuedSince, houtbox, List.drop_left]

/-- Passing over an id issues nothing. -/
theorem issuedSince_run_of_missing {id : OrderId} (h : session.book.orders.get? id = none)
    (snapshot : Snapshot) (agent : Option UnitTag) :
    (session.run snapshot id agent).2.issuedSince session = [] := by
  rw [run_of_missing h, issuedSince, List.drop_length]

/-- A run adds commands to the outbox and takes none away. -/
theorem outbox_run (session : Session) (snapshot : Snapshot) (id : OrderId)
    (agent : Option UnitTag) :
    (session.run snapshot id agent).2.outbox =
      session.outbox ++ (session.run snapshot id agent).2.issuedSince session := by
  cases h : session.book.orders.get? id with
  | none => rw [issuedSince_run_of_missing h, run_of_missing h, List.append_nil]
  | some order =>
    rw [issuedSince_run h, run_of_stored h]
    exact (order.performed_perform _ _ _).outbox

/-- Without the runs, the log lists the commands of the tick. -/
theorem outbox_playTick (session : Session) (snapshot : Snapshot) :
    (session.playTick snapshot).session.outbox =
      session.outbox ++ (session.log snapshot).flatMap (·.commands) := by
  refine tick_induction
    (motive := fun before log after => after.outbox = before.outbox ++ log.flatMap (·.commands))
    ?_ ?_ ?_ session
  · intro session roster _
    simp
  · intro session id agent
    simpa using session.outbox_run snapshot id agent
  · intro session middle after first second h₁ h₂
    rw [h₂, h₁, List.flatMap_append, List.append_assoc]

/-- A tick sends the commands of its log. -/
theorem sent_step (session : Session) (snapshot : Snapshot) (quiet : session.outbox = []) :
    (session.step snapshot).sent = (session.log snapshot).flatMap (·.commands) := by
  have h := session.outbox_playTick snapshot
  rw [quiet, List.nil_append] at h
  exact h

end Session

end Skirmish
