import Skirmish.Session.Events
import Skirmish.Session.Step
import Skirmish.Session.Strategy

/-!
# Reachable sessions

A session is driven from outside: by the callbacks of the simulation, by strategies that are given
to it, and by orders, locations and unit types that are stored in it. `Event` lists all of this,
`Session.react` is what a session makes of one event, and the reachable sessions are those that some
list of events makes of a new session. Any event can come at any time: nothing is asked of a unit, a
snapshot or a text, and a callback that fails is an event like any other.

An order that is stored from outside is given by its id and its intent, so that nobody is carrying
it out yet. Orders can also be made and kept elsewhere; all that the session sees of that is that a
number has been used up.

`Reachable.invariant` proves a property of all reachable sessions from what one event preserves.
-/

namespace Skirmish

/-- What can happen to a session. -/
inductive Event where
  /-- The game starts. -/
  | start (snapshot : Snapshot)
  /-- A tick is played. -/
  | tick (snapshot : Snapshot)
  | created (unit : UnitView)
  | completed (unit : UnitView)
  | damaged (snapshot : Snapshot) (unit : UnitView)
  | becameIdle (tag : UnitTag)
  | destroyed (unit : UnitView)
  /-- The session is given a strategy. -/
  | install (rules : RuleSet)
  /-- The session is given the text of a strategy file. -/
  | loadStrategy (text : String)
  | loadOpening
  | storeLocation (name : String) (location : Point)
  | storeUnitType (name : String) (unitType : UnitType)
  /-- An order is made elsewhere and takes a number. -/
  | orderMade
  | storeOrder (id : OrderId) (intent : Intent)
  /-- A stored order is to be followed by one that is stored with it. -/
  | attachBundle (outer id : OrderId) (intent : Intent)

namespace Session

/-- The session after an event. -/
def react (session : Session) : Event → Session
  | .start snapshot => (session.start snapshot).session
  | .tick snapshot => (session.step snapshot).session
  | .created unit => (session.created unit).session
  | .completed unit => (session.completed unit).session
  | .damaged snapshot unit => (session.damaged snapshot unit).session
  | .becameIdle tag => (session.becameIdle tag).session
  | .destroyed unit => (session.destroyed unit).session
  | .install rules => (session.install rules).2
  | .loadStrategy text => (session.loadStrategy text).2
  | .loadOpening => session.loadOpening.2
  | .storeLocation name location =>
    { session with blackboard := session.blackboard.storeLocation name location }
  | .storeUnitType name unitType =>
    { session with blackboard := session.blackboard.storeUnitType name unitType }
  | .orderMade => { session with nextId := session.nextId.next }
  | .storeOrder id intent => { session with book := session.book.store (.issue id intent) }
  | .attachBundle outer id intent =>
    match session.book.attachBundle outer (.issue id intent) with
    | .ok book => { session with book }
    | .error _ => session

/-- The session after several events, one after the other. -/
def after (session : Session) (events : List Event) : Session := events.foldl react session

/-- Whether some list of events leads from a new session to this one. -/
def Reachable (session : Session) : Prop :=
  ∃ config layout events, session = (Session.new config layout).after events

/-- What holds of a session and is preserved by every event holds after any events. -/
theorem after_invariant {P : Session → Prop} (react : ∀ session event, P session →
    P (session.react event)) (events : List Event) {session : Session} (h : P session) :
    P (session.after events) := by
  induction events generalizing session with
  | nil => exact h
  | cons event events ih => exact ih (react session event h)

/-- What holds of a new session and is preserved by every event holds of all reachable sessions. -/
theorem Reachable.invariant {P : Session → Prop} (new : ∀ config layout, P (.new config layout))
    (react : ∀ session event, P session → P (session.react event)) {session : Session}
    (reached : session.Reachable) : P session := by
  obtain ⟨config, layout, events, rfl⟩ := reached
  exact after_invariant react events (new config layout)

/-- After one more event the session is still a reachable one. -/
theorem Reachable.reacted {session : Session} (reached : session.Reachable) (event : Event) :
    (session.react event).Reachable := by
  obtain ⟨config, layout, events, rfl⟩ := reached
  exact ⟨config, layout, events ++ [event], by rw [after, after, List.foldl_append]; rfl⟩

/-! ## Finished buildings -/

/-- A finished building takes its base first, which changes the layout alone. Then the callback
fails, or the building is known as a defense and gets its workers, as far as it is one that does. -/
theorem completed_cases (session : Session) (unit : UnitView) : ∃ layout,
    (unit.unitType.isDefenseStructure = true ∧ session.roster.contains unit.tag = false ∧
      session.completed unit =
        { session with layout }.silent (.error (.agentNotFound unit.tag))) ∨
    ∃ roster, (roster = session.roster ∨ roster = session.roster.modify unit.tag (·.gain .defense)) ∧
      ∃ crewed, crewed = (if unit.unitType.isGasStructure then
          sendGasWorkers unit session.config.gasWorkersPerStructure.toNat
            { session with layout, roster }
        else { session with layout, roster }) ∧
        session.completed unit = ⟨.ok crewed.flush.value, crewed.flush.sent, crewed.flush.session⟩ := by
  simp only [completed]
  generalize hbase : (if unit.unitType.isTownhall then _ else session) = based
  -- Whichever base is taken, the session differs in its layout only.
  have hbased : ∃ layout, based = { session with layout } := by
    rw [← hbase]
    split
    · split <;> exact ⟨_, rfl⟩
    · exact ⟨session.layout, rfl⟩
  obtain ⟨layout, rfl⟩ := hbased
  refine ⟨layout, ?_⟩
  split
  · rename_i hfails
    obtain ⟨hdefense, hnew⟩ := (Bool.and_eq_true _ _).mp hfails
    exact Or.inl ⟨hdefense, (Bool.not_eq_true' _).mp hnew, rfl⟩
  · cases unit.unitType.isDefenseStructure with
    | true => exact Or.inr ⟨_, Or.inr rfl, _, rfl, rfl⟩
    | false => exact Or.inr ⟨_, Or.inl rfl, _, rfl, rfl⟩

/-! ## Nothing is left unsent -/

/-- Installing rules sends nothing. -/
theorem outbox_install (session : Session) (rules : RuleSet) :
    (session.install rules).2.outbox = session.outbox := by
  unfold install
  split <;> rfl

/-- Every callback sends what it has issued, and the other events issue nothing. -/
theorem outbox_react {session : Session} (quiet : session.outbox = []) (event : Event) :
    (session.react event).outbox = [] := by
  -- A callback that may send something ends by emptying the outbox, the others leave it as it was.
  cases event with
  | start snapshot => rfl
  | tick snapshot => rfl
  | created unit =>
    simp only [react, created]
    split
    · exact quiet
    · rfl
  | completed unit =>
    obtain ⟨layout, ⟨-, -, hcompleted⟩ | ⟨roster, -, crewed, -, hcompleted⟩⟩ :=
      session.completed_cases unit
    · rw [react, hcompleted]
      exact quiet
    · rw [react, hcompleted]
      rfl
  | damaged snapshot unit =>
    simp only [react, damaged]
    split <;> rfl
  | becameIdle tag =>
    simp only [react, becameIdle]
    split
    · exact quiet
    · simp only [silent, unassign]
      split <;> exact quiet
  | destroyed unit =>
    simp only [react, destroyed]
    split
    · exact quiet
    · split <;> exact quiet
  | install rules => rw [react, outbox_install, quiet]
  | loadStrategy text =>
    simp only [react, loadStrategy]
    split
    · exact quiet
    · split
      · exact quiet
      · exact (outbox_install _ _).trans quiet
  | loadOpening => exact (outbox_install _ _).trans quiet
  | storeLocation name location => exact quiet
  | storeUnitType name unitType => exact quiet
  | orderMade => exact quiet
  | storeOrder id intent => exact quiet
  | attachBundle outer id intent =>
    simp only [react]
    split <;> exact quiet

/-- Between events the outbox is empty. -/
theorem Reachable.quiet {session : Session} (reached : session.Reachable) :
    session.outbox = [] :=
  reached.invariant (P := fun session => session.outbox = []) (fun _ _ => rfl)
    fun _ event quiet => outbox_react quiet event

end Session

/-! ## A small game -/

namespace SmallGame

/-- A worker of our own. -/
def probe : UnitView := .ofType ⟨7⟩ .protossProbe .origin

/-- A mineral field next to it. -/
def field : UnitView :=
  { UnitView.ofType ⟨9⟩ .neutralMineralField .origin with alliance := .neutral }

/-- The world with these two units. -/
def snapshot : Snapshot := { Snapshot.blank with units := [probe, field] }

/-- The session after the first tick, in which the worker has been sent to the field. -/
def session : Session :=
  (Session.new .standard (.singleBase .origin)).after [.start snapshot, .tick snapshot]

/-- The session can come about. -/
theorem reachable_session : session.Reachable := ⟨_, _, _, rfl⟩

/-- An order to build a pylon at home. -/
def pylon : Intent := .unitTypeAt .protossProbe .buildPylon .startLocation

/-- The session of the small game with two rules that always fire, each with such an order. -/
def rivals : Session := (Session.new .standard (.singleBase .origin)).after
  [.start snapshot, .storeOrder ⟨21⟩ pylon, .storeOrder ⟨22⟩ pylon,
    .install ⟨"rivals", [⟨"first", ⟨21⟩, [⟨[]⟩]⟩, ⟨"second", ⟨22⟩, [⟨[]⟩]⟩]⟩]

/-- The session with the rival rules can come about. -/
theorem reachable_rivals : rivals.Reachable := ⟨_, _, _, rfl⟩

/-- A gas structure that has just been finished. -/
def assimilator : UnitView := .ofType ⟨10⟩ .protossAssimilator .origin

/-- The world in which a second worker is on its way to build a pylon. -/
def building : Snapshot := { snapshot with
  units := { probe with tag := ⟨8⟩, activities := [.untargeted .buildPylon] } :: snapshot.units }

end SmallGame

end Skirmish
