import Skirmish.Proofs.Session.CrossReference

/-!
# Callbacks that fail

Three callbacks can fail, and all for the same reason: they are about an agent, and there is none.
`failed_callbacks_change_nothing` says for each of them when that is, and that it leaves the session
as it was. Nothing has to be undone for this. Whether a unit that is idle or destroyed is on the
roster is looked up before anything else happens, and a building can only take a base before it is
looked up as a defense, which no townhall is (`isDefenseStructure_of_isTownhall`).

A unit of our own that is destroyed goes off the roster and off every list. A unit of someone else is
none of our business, even if its tag is on the roster.
-/

namespace Skirmish

/-- No structure is both a townhall and a defense. -/
theorem UnitType.isDefenseStructure_of_isTownhall {type : UnitType} (h : type.isTownhall = true) :
    type.isDefenseStructure = false := by
  simp only [isTownhall, List.contains_iff_mem] at h
  revert type
  decide

namespace Session

variable {session : Session} {tag : UnitTag} {unit : UnitView}

/-! ## When a callback fails -/

/-- Whether a callback fails just under a condition, and then because a tag is not on the roster,
with nothing sent and nothing changed. -/
structure FailsIff {α : Type} (session : Session) (reply : Reply (Except Error α)) (tag : UnitTag)
    (condition : Prop) : Prop where
  fails_iff : (∃ e, reply.value = .error e) ↔ condition
  unchanged : condition → reply = session.silent (.error (.agentNotFound tag))

/-- A callback fails exactly on a condition if it fails on it and has a value otherwise. -/
theorem FailsIff.of_cases {α : Type} {reply : Reply (Except Error α)} {condition : Prop}
    (fails : condition → reply = session.silent (.error (.agentNotFound tag)))
    (succeeds : ¬ condition → ∃ value, reply.value = .ok value) :
    session.FailsIff reply tag condition := by
  refine ⟨⟨?_, ?_⟩, fails⟩
  · rintro ⟨e, he⟩
    refine Classical.byContradiction fun h => ?_
    obtain ⟨value, hvalue⟩ := succeeds h
    rw [hvalue] at he
    cases he
  · intro h
    exact ⟨_, congrArg Reply.value (fails h)⟩

/-- That an agent becomes idle fails exactly if it is not on the roster. -/
theorem becameIdle_failsIff (session : Session) (tag : UnitTag) :
    session.FailsIff (session.becameIdle tag) tag (session.roster.contains tag = false) := by
  refine .of_cases ?_ ?_
  · intro h
    have hnone : session.roster.get? tag = none := Table.contains_eq_false_iff.mp h
    rw [becameIdle, hnone]
  · intro h
    obtain ⟨agent, hagent⟩ := Option.isSome_iff_exists.mp (Bool.not_eq_false _ ▸ h)
    rw [becameIdle, hagent]
    exact ⟨(), rfl⟩

/-- That a unit was destroyed fails exactly if it is ours and not on the roster. -/
theorem destroyed_failsIff (session : Session) (unit : UnitView) :
    session.FailsIff (session.destroyed unit) unit.tag
      (unit.isOwn = true ∧ session.roster.contains unit.tag = false) := by
  refine .of_cases ?_ ?_
  · rintro ⟨hown, hnew⟩
    simp [destroyed, hown, hnew]
  · intro h
    unfold destroyed
    split
    · exact ⟨(), rfl⟩
    · split
      · simp_all
      · exact ⟨(), rfl⟩

/-- That a unit was completed fails exactly if it is a defense structure that is not on the roster.
-/
theorem completed_failsIff (session : Session) (unit : UnitView) :
    session.FailsIff (session.completed unit) unit.tag
      (unit.unitType.isDefenseStructure = true ∧ session.roster.contains unit.tag = false) := by
  refine .of_cases ?_ ?_
  · rintro ⟨hdefense, hnew⟩
    have htownhall : unit.unitType.isTownhall = false := by
      refine Bool.eq_false_iff.mpr fun h => ?_
      rw [UnitType.isDefenseStructure_of_isTownhall h] at hdefense
      cases hdefense
    simp [completed, htownhall, hdefense, hnew]
  · intro h
    obtain ⟨layout, ⟨hdefense, hnew, -⟩ | ⟨roster, -, crewed, -, hcompleted⟩⟩ :=
      session.completed_cases unit
    · exact absurd ⟨hdefense, hnew⟩ h
    · rw [hcompleted]
      exact ⟨_, rfl⟩

/-! ## What a destroyed unit leaves behind -/

/-- What is left when one of our own units is gone: its tag is on no list, and nothing has changed
for the other tags. -/
structure Released (before : Session) (tag : UnitTag) (after : Session) : Prop where
  unlisted : ∀ id, ¬ after.book.Lists id tag
  other_agents : ∀ other, other ≠ tag → after.roster.get? other = before.roster.get? other
  other_lists : ∀ id other, other ≠ tag → (after.book.Lists id other ↔ before.book.Lists id other)

/-- A registered unit of ours that was destroyed leaves the roster and its order. -/
theorem released_destroyed (own : unit.isOwn = true)
    (registered : session.roster.contains unit.tag = true) :
    session.Released unit.tag (session.destroyed unit).session := by
  have hdestroyed : (session.destroyed unit).session = { session with
      roster := session.roster.erase unit.tag
      book := session.book.release unit.tag } := by
    simp [destroyed, own, registered, silent]
  rw [hdestroyed]
  refine ⟨?_, ?_, ?_⟩
  · intro id hlists
    exact (OrderBook.lists_release.mp hlists).2 rfl
  · intro other hne
    exact Table.get?_erase.trans (if_neg hne)
  · intro id other hne
    exact OrderBook.lists_release.trans (and_iff_left hne)

/-- **Callbacks that fail change nothing.** An agent that becomes idle, one of our own units that is
destroyed and a defense that is completed have to be on the roster. If they are not, the callback
says so, sends nothing and leaves the session as it was; in all other cases it succeeds. When one of
our own units is destroyed, no order lists it any longer, and other agents keep their records and
their places on the lists. When a unit of someone else is destroyed, nothing happens. -/
theorem failed_callbacks_change_nothing (session : Session) :
    (∀ tag, session.FailsIff (session.becameIdle tag) tag (session.roster.contains tag = false)) ∧
      (∀ unit, session.FailsIff (session.destroyed unit) unit.tag
        (unit.isOwn = true ∧ session.roster.contains unit.tag = false)) ∧
      (∀ unit, session.FailsIff (session.completed unit) unit.tag
        (unit.unitType.isDefenseStructure = true ∧ session.roster.contains unit.tag = false)) ∧
      ∀ unit, (session.destroyed unit).value = .ok () →
        if unit.isOwn then session.Released unit.tag (session.destroyed unit).session
        else session.destroyed unit = session.silent (.ok ()) := by
  refine ⟨session.becameIdle_failsIff, session.destroyed_failsIff, session.completed_failsIff, ?_⟩
  intro unit hok
  split
  · rename_i own
    refine released_destroyed own ?_
    -- It would have failed otherwise.
    refine (Bool.not_eq_false _).mp fun hnew => ?_
    rw [(session.destroyed_failsIff unit).unchanged ⟨own, hnew⟩] at hok
    cases hok
  · rename_i foreign
    simp [destroyed, foreign]

/-- In the small game a unit that is not on the roster can neither be idle nor be destroyed, and the
worker leaves its list when it is destroyed. -/
theorem failed_callbacks_change_nothing_smallGame :
    SmallGame.session.becameIdle ⟨8⟩ = SmallGame.session.silent (.error (.agentNotFound ⟨8⟩)) ∧
      (SmallGame.session.book.Lists ⟨1⟩ ⟨7⟩ ∧
        ¬ (SmallGame.session.destroyed SmallGame.probe).session.book.Lists ⟨1⟩ ⟨7⟩) := by
  obtain ⟨hidle, -, -, hdestroyed⟩ := failed_callbacks_change_nothing SmallGame.session
  refine ⟨(hidle ⟨8⟩).unchanged (by decide), ?_, ?_⟩
  · exact (SmallGame.reachable_session.linked.lists_iff ⟨1⟩ ⟨7⟩).mpr (by decide)
  · exact (hdestroyed SmallGame.probe rfl).unlisted ⟨1⟩

end Session

/-! ## Units of someone else -/

/-- The worker of the small game on the side of the enemy. -/
def SmallGame.deserter : UnitView := { probe with alliance := .enemy }

/-- That a destroyed unit is on no list cannot be said of all units: the callback succeeds for a unit
of someone else and leaves the lists as they are. -/
theorem Session.destroyed_may_stay_listed :
    ¬ ∀ session : Session, session.Reachable → ∀ unit, (session.destroyed unit).value = .ok () →
      ∀ id, ¬ (session.destroyed unit).session.book.Lists id unit.tag := by
  intro unlisted
  refine unlisted SmallGame.session SmallGame.reachable_session SmallGame.deserter rfl ⟨1⟩ ?_
  exact (SmallGame.reachable_session.linked.lists_iff ⟨1⟩ ⟨7⟩).mpr (by decide)

end Skirmish
