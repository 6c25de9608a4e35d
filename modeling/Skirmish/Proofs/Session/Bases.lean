import Skirmish.Proofs.Map.Bases
import Skirmish.Proofs.Session.Numbering

/-!
# Which bases have been taken

The bases that are active can be told from what has happened: they are those that were active from
the start, the start base once the game has started, and the base nearest to every townhall that was
finished. A layout never changes in anything else (`bases_after`).

## Shape of the proof

Only two events look at the layout to change it, and each takes one base at most (`took_react`).
Taking bases composes (`Layout.Took.trans`), and what an event takes does not depend on the bases
that have been taken before (`Event.takes_congr`), so that a list of events takes what its events
take one by one.
-/

namespace Skirmish

/-- Whether an event takes the base with an index. -/
def Event.TakesBase (layout : Layout) : Event → Nat → Prop
  | .start _, index => index = layout.startBase.toNat
  | .completed unit, index =>
    unit.unitType.isTownhall = true ∧ layout.IsNearest unit.position index
  | _, _ => False

/-- What an event takes does not depend on the bases that have been taken before. -/
theorem Event.takesBase_unmarked (layout : Layout) (event : Event) :
    event.TakesBase layout.unmarked = event.TakesBase layout := by
  cases event with
  | completed unit =>
    funext index
    simp only [TakesBase, layout.isNearest_unmarked]
  | _ => rfl

namespace Session

/-! ## The layout after an event -/

section

variable {session : Session}

/-- A tick leaves the layout alone. -/
theorem layout_playTick (session : Session) (snapshot : Snapshot) :
    (session.playTick snapshot).session.layout = session.layout := by
  refine tick_induction (motive := fun before _ after => after.layout = before.layout) ?_ ?_ ?_
    session
  · intro session roster _
    rfl
  · intro session id agent
    unfold run
    split <;> rfl
  · intro before middle after first second h₁ h₂
    exact h₂.trans h₁

theorem layout_recruit (session : Session) (unit : UnitView) (agent : Agent) (place : Place) :
    (session.recruit unit agent place).layout = session.layout := by
  unfold recruit
  split <;> rfl

theorem layout_welcomeAll (units : List UnitView) (session : Session) :
    (units.foldl welcome session).layout = session.layout := by
  induction units generalizing session with
  | nil => rfl
  | cons unit units ih =>
    rw [List.foldl_cons, ih]
    rcases session.welcome_cases unit with hsame | ⟨-, hrecruit⟩
    · rw [hsame]
    · rw [hrecruit, layout_recruit]

theorem layout_releaseGasBuilder (session : Session) (around : Point) :
    (session.releaseGasBuilder around).layout = session.layout := by
  unfold releaseGasBuilder
  split <;> rfl

theorem layout_register (session : Session) (unit : UnitView) :
    (session.register unit).layout = session.layout := by
  obtain ⟨_, home, post, place, ⟨random, rfl⟩, hregister⟩ := session.register_eq unit
  rw [hregister, layout_recruit]

theorem layout_created (session : Session) (unit : UnitView) :
    (session.created unit).session.layout = session.layout := by
  unfold created
  split
  · rfl
  · refine (layout_register _ unit).trans ?_
    split
    · exact session.layout_releaseGasBuilder unit.position
    · rfl

theorem layout_sendGasWorkers (site : UnitView) (count : Nat) (session : Session) :
    (sendGasWorkers site count session).layout = session.layout := by
  rw [sendGasWorkers_eq]
  induction session.gasCrew site count generalizing session with
  | nil => rfl
  | cons tag crew ih => exact ih _

/-- The layout after a building is finished. -/
def layoutWith (session : Session) (unit : UnitView) : Layout :=
  if unit.unitType.isTownhall then
    match session.layout.nearestBase? unit.position with
    | some index => session.layout.activate index
    | none => session.layout
  else session.layout

/-- A finished townhall takes the nearest base, and no other building takes one. -/
theorem layout_completed (session : Session) (unit : UnitView) :
    (session.completed unit).session.layout = session.layoutWith unit := by
  simp only [completed]
  generalize hbase : (if unit.unitType.isTownhall then _ else session) = based
  have hbased : based.layout = session.layoutWith unit := by
    rw [← hbase, layoutWith]
    split
    · cases session.layout.nearestBase? unit.position <;> rfl
    · rfl
  have hcrewed : ∀ defended : Session, (if unit.unitType.isGasStructure then
      sendGasWorkers unit defended.config.gasWorkersPerStructure.toNat defended
    else defended).layout = defended.layout := by
    intro defended
    split
    · exact layout_sendGasWorkers unit _ defended
    · rfl
  rw [← hbased]
  split
  · rfl
  · refine (hcrewed _).trans ?_
    split <;> rfl

theorem layout_becameIdle (session : Session) (tag : UnitTag) :
    (session.becameIdle tag).session.layout = session.layout := by
  unfold becameIdle unassign
  split
  · rfl
  · split <;> rfl

theorem layout_destroyed (session : Session) (unit : UnitView) :
    (session.destroyed unit).session.layout = session.layout := by
  unfold destroyed
  split
  · rfl
  · split <;> rfl

theorem layout_install (session : Session) (rules : RuleSet) :
    (session.install rules).2.layout = session.layout := by
  obtain ⟨strategy, hinstall⟩ := session.install_eq rules
  rw [hinstall]

/-- Whatever takes ids leaves the layout alone. -/
theorem layout_of_takes {after : Session} {count : Nat} (takes : session.Takes after count) :
    after.layout = session.layout := by
  obtain ⟨strategy, orders, -, rfl⟩ := takes
  rfl

/-- A unit that was completed takes the base nearest to it if it is a townhall, and none otherwise.
-/
theorem took_layoutWith (session : Session) (unit : UnitView) :
    session.layout.Took (Event.TakesBase session.layout (.completed unit))
      (session.layoutWith unit) := by
  have htakes : Event.TakesBase session.layout (.completed unit) = fun index =>
      unit.unitType.isTownhall = true ∧
        session.layout.nearestBase? unit.position = some index := by
    funext index
    rw [Event.TakesBase, Layout.nearestBase?_eq_some_iff]
  rw [htakes, layoutWith]
  cases unit.unitType.isTownhall with
  | false => simpa using Layout.Took.none session.layout
  | true =>
    cases session.layout.nearestBase? unit.position with
    | none => simpa using Layout.Took.none session.layout
    | some index => simpa [eq_comm] using Layout.Took.activate session.layout index

/-- **Every event takes the bases that it is said to take.** -/
theorem took_react (session : Session) (event : Event) :
    session.layout.Took (event.TakesBase session.layout) (session.react event).layout := by
  have hnone : ∀ {after : Session}, after.layout = session.layout →
      session.layout.Took (fun _ => False) after.layout := by
    intro after h
    rw [h]
    exact Layout.Took.none session.layout
  -- Only the start and a completed townhall take a base.
  cases event with
  | start snapshot =>
    have hwelcome := session.layout_welcomeAll snapshot.ownUnits
    show session.layout.Took _ (Layout.activate (snapshot.ownUnits.foldl welcome session).layout _)
    rw [hwelcome]
    exact Layout.Took.activate session.layout _
  | completed unit =>
    show session.layout.Took _ (session.completed unit).session.layout
    rw [layout_completed]
    exact session.took_layoutWith unit
  | tick snapshot => exact hnone (session.layout_playTick snapshot)
  | created unit => exact hnone (session.layout_created unit)
  | damaged snapshot unit => exact hnone (by rw [react, damaged_eq])
  | becameIdle tag => exact hnone (session.layout_becameIdle tag)
  | destroyed unit => exact hnone (session.layout_destroyed unit)
  | install rules => exact hnone (session.layout_install rules)
  | loadStrategy text => exact hnone (layout_of_takes (session.takes_loadStrategy text))
  | loadOpening => exact hnone (layout_of_takes session.takes_loadOpening)
  | storeLocation name location => exact hnone rfl
  | storeUnitType name unitType => exact hnone rfl
  | orderMade => exact hnone rfl
  | storeOrder id intent => exact hnone rfl
  | attachBundle outer id intent =>
    refine hnone ?_
    simp only [react]
    split <;> rfl

end

/-! ## The layout after several events -/

/-- **A list of events takes what its events take one by one.** -/
theorem took_after (session : Session) (events : List Event) :
    session.layout.Took (fun index => ∃ event ∈ events, event.TakesBase session.layout index)
      (session.after events).layout := by
  induction events generalizing session with
  | nil =>
    simp only [List.not_mem_nil, false_and, exists_false]
    exact Layout.Took.none session.layout
  | cons event events ih =>
    have hfirst := session.took_react event
    have hrest := ih (session.react event)
    have hsame : ∀ later : Event, later.TakesBase (session.react event).layout =
        later.TakesBase session.layout := by
      intro later
      rw [← later.takesBase_unmarked, hfirst.unmarked, later.takesBase_unmarked]
    simp only [hsame] at hrest
    simp only [List.mem_cons, exists_eq_or_imp]
    exact hfirst.trans hrest

/-- **Which bases have been taken.** After any events the layout is what it was before, up to the
marks. A base is active if it was before or if some event has taken it. The newest active base, to
which orders can refer, is the active one with the highest index, and events never lower it. -/
theorem bases_after (session : Session) (events : List Event) :
    (session.after events).layout.unmarked = session.layout.unmarked ∧
      (∀ index, (session.after events).layout.IsActive index ↔
        session.layout.IsActive index ∨
          (∃ event ∈ events, event.TakesBase session.layout index) ∧
            index < session.layout.bases.length) ∧
      (∀ board point,
        Place.newestActiveBase.resolve (session.after events).layout board = some point ↔
          ∃ base index, (session.after events).layout.IsNewest base index ∧
            base.townhall = point) ∧
      ∀ base index, session.layout.IsNewest base index →
        ∃ newer newest, (session.after events).layout.IsNewest newer newest ∧ index ≤ newest := by
  have htook := session.took_after events
  refine ⟨htook.unmarked, htook.isActive_iff, ?_, ?_⟩
  · intro board point
    rw [Place.resolve, Option.map_eq_some_iff]
    simp only [Prod.exists, Layout.newestActive_eq_some_iff]
  · -- Bases stay active, so the newest one can only be replaced by a newer one.
    rintro base index ⟨hbase, hactive, -⟩
    have hstill : (session.after events).layout.IsActive index :=
      (htook.isActive_iff index).mpr (Or.inl ⟨base, hbase, hactive⟩)
    obtain ⟨newer, newest, hnewest, hle⟩ := hstill.exists_newest
    exact ⟨newer, newest, Layout.newestActive_eq_some_iff.mp hnewest, hle⟩

end Session

/-- A map with two bases. -/
def SmallGame.twoBases : Layout := ⟨0, .origin, [.atTownhall .origin, .atTownhall ⟨10, 0⟩]⟩

/-- A townhall that is finished near the second base takes it, and then it is the newest one. -/
example : ((Session.new .standard SmallGame.twoBases).after [.start .blank,
    .completed (.ofType ⟨3⟩ .protossNexus ⟨9, 0⟩)]).layout.newestActive.map (·.2) = some 1 := by
  decide

end Skirmish
