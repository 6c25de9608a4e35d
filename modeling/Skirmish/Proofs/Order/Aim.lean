import Skirmish.Proofs.Order.Selection
import Skirmish.Proofs.World.Nearest

/-!
# What an order is aimed at

Running an order starts with three questions: what it is aimed at, which units stand where it wants
them, and which of those have something to do already. Here each question is answered without the
searches and tests that the order makes, and the two answers are shown to agree.

* `Intent.FixedAim` and `Intent.FixedTarget` say what the order is aimed at if that does not depend
  on chance. `Intent.Scatters` is the one case in which it does: the order is for a random point near
  a location. An order without any of them is aimed at nothing now (`Intent.aim?_eq_some_iff`,
  `Intent.target_cases`).
* `Intent.Fits` says which units of a type stand where the order wants them.
* `Outbox.Spare`, `Outbox.Unengaged` and `Outbox.InUse` say which units have nothing to do, which
  are building nothing, and which abilities are in use, going by the snapshot and by the commands
  issued so far.
-/

namespace Skirmish

/-- Whether the action needs an aim: a location, or a unit that is there already. -/
def ActionKind.aims : ActionKind → Bool
  | exactLocation | nearLocation | targetUnit => true
  | _ => false

/-! ## What is going on -/

namespace Outbox

variable {outbox : Outbox} {unit : UnitView} {snapshot : Snapshot} {ability : Ability}

/-- Whether a unit does nothing and has been told nothing. -/
structure Spare (outbox : Outbox) (unit : UnitView) : Prop where
  resting : unit.activities = []
  untold : ∀ command ∈ outbox, unit.tag ∉ command.units

/-- Whether a unit builds no structure and has not been told to. -/
structure Unengaged (outbox : Outbox) (unit : UnitView) : Prop where
  notBuilding : ∀ activity ∈ unit.activities, activity.ability.buildsStructure = false
  notTold : ∀ command ∈ outbox, unit.tag ∈ command.units → command.ability.buildsStructure = false

/-- Whether one of our units uses an ability, or a command does. -/
def InUse (outbox : Outbox) (snapshot : Snapshot) (ability : Ability) : Prop :=
  (∃ unit ∈ snapshot.units, unit.alliance = .own ∧
      ∃ activity ∈ unit.activities, activity.ability = ability) ∨
    ∃ command ∈ outbox, command.ability = ability

/-- No activity or command is pending for a unit exactly if it is spare. -/
theorem pendingFor_eq_zero_iff : outbox.pendingFor unit = 0 ↔ outbox.Spare unit := by
  have hcount : outbox.countFor unit.tag = 0 ↔ ∀ command ∈ outbox, unit.tag ∉ command.units := by
    simp only [countFor, List.countP_eq_zero, Command.addresses, List.contains_iff_mem]
  rw [pendingFor, Nat.add_eq_zero_iff, List.length_eq_zero_iff, hcount]
  exact ⟨fun h => ⟨h.1, h.2⟩, fun h => ⟨h.resting, h.untold⟩⟩

/-- A command for one unit leaves to the others whatever they have, and gives that one something to
do. -/
theorem spare_append_single {tag : UnitTag} {target : CommandTarget} :
    Spare (outbox ++ [.single tag ability target]) unit ↔ outbox.Spare unit ∧ unit.tag ≠ tag := by
  constructor
  · rintro ⟨resting, untold⟩
    refine ⟨⟨resting, fun command h => untold command (List.mem_append_left _ h)⟩, fun htag => ?_⟩
    exact untold _ (List.mem_append_right _ List.mem_cons_self) (List.mem_singleton.mpr htag)
  · rintro ⟨⟨resting, untold⟩, htag⟩
    refine ⟨resting, fun command h => ?_⟩
    rcases List.mem_append.mp h with h | h
    · exact untold command h
    · rw [List.mem_singleton.mp h]
      exact fun hmem => htag (List.mem_singleton.mp hmem)

/-- A unit is not constructing exactly if it is unengaged. -/
theorem isConstructing_eq_false_iff :
    outbox.isConstructing unit = false ↔ outbox.Unengaged unit := by
  simp only [isConstructing, Bool.or_eq_false_iff, List.any_eq_false, Bool.not_eq_true,
    Bool.and_eq_false_imp, Command.addresses, List.contains_iff_mem]
  exact ⟨fun h => ⟨h.1, h.2⟩, fun h => ⟨h.notBuilding, h.notTold⟩⟩

/-- An ability is in flight exactly if it is in use by a unit or a command. -/
theorem inFlight_iff : outbox.inFlight snapshot ability = true ↔ outbox.InUse snapshot ability := by
  simp only [inFlight, uses, UnitView.isUsing, UnitView.isOwn, Snapshot.ownUnits, InUse,
    Bool.or_eq_true, List.any_eq_true, List.mem_filter, decide_eq_true_eq, and_assoc]

end Outbox

namespace Intent

variable {intent : Intent} {situation : Situation} {random after : Random} {aim : Aim}

/-! ## Where units have to stand -/

/-- Whether a position is where the order wants its units: anywhere if the order has no scope, and
otherwise closer than the radius of the scope to its place, which has to be known. -/
def Reaches (intent : Intent) (situation : Situation) (position : Point) : Prop :=
  ∀ scope ∈ intent.scope, ∃ center, situation.locate scope.place = some center ∧
    position.distanceSquared center < scope.radius * scope.radius

/-- The area of an order has the positions that the order reaches. -/
theorem contains_area_iff {position : Point} :
    (intent.area situation).contains position = true ↔ intent.Reaches situation position := by
  unfold area Reaches
  cases intent.scope with
  | none => simp [Area.contains]
  | some scope =>
    simp only [Option.mem_some_iff, forall_eq']
    cases situation.locate scope.place with
    | none => simp [Area.contains]
    | some center => simp [Area.contains]

/-- Whether a unit is a finished one of ours, of a type, that stands where the order wants it. -/
structure Fits (intent : Intent) (situation : Situation) (type : UnitType) (unit : UnitView) :
    Prop where
  listed : unit ∈ situation.snapshot.units
  own : unit.alliance = .own
  ofType : unit.unitType = type
  finished : UnitView.finished ≤ unit.buildProgress
  inScope : intent.Reaches situation unit.position

/-- A unit fits exactly if it is one of ours and suits the order. -/
theorem fits_iff {type : UnitType} {unit : UnitView} : intent.Fits situation type unit ↔
    unit ∈ situation.snapshot.ownUnits ∧ intent.suits situation type unit = true := by
  simp only [Snapshot.ownUnits, List.mem_filter, UnitView.isOwn, decide_eq_true_eq, suits,
    UnitView.isComplete, Bool.and_eq_true, contains_area_iff]
  constructor
  · intro h
    exact ⟨⟨h.listed, h.own⟩, ⟨h.ofType, h.finished⟩, h.inScope⟩
  · intro h
    exact ⟨h.1.1, h.1.2, h.2.1.1, h.2.1.2, h.2.2⟩

/-- The order is not held back if it allows several uses of its ability, or if there is none. -/
theorem mustWait_eq_false_iff {outbox : Outbox} : intent.mustWait situation outbox = false ↔
    intent.allowsMultiple = true ∨ ¬ outbox.InUse situation.snapshot intent.ability := by
  rw [mustWait, Bool.and_eq_false_iff, Bool.not_eq_false', ← Outbox.inFlight_iff, Bool.not_eq_true]

/-! ## Aims -/

/-- Whether the order is aimed at something that does not depend on chance: the nearest free geyser
for a gas structure, a location, or a unit. -/
inductive FixedAim (intent : Intent) (situation : Situation) : Aim → Prop
  | geyser {place : Place} {center : Point} {geyser : UnitView}
      (action : intent.action = .exactLocation place ∨ intent.action = .nearLocation place)
      (gas : intent.ability.buildsGasStructure = true)
      (located : situation.locate place = some center)
      (nearest : geyser.IsNearest center
        (situation.snapshot.IsFreeGeyser situation.claimRadius)) :
      FixedAim intent situation ⟨.unit geyser.tag, geyser.position⟩
  | point {place : Place} {center : Point}
      (action : intent.action = .exactLocation place)
      (gas : intent.ability.buildsGasStructure = false)
      (located : situation.locate place = some center) :
      FixedAim intent situation ⟨.point center, center⟩
  | unit {target : TargetUnit} {unit : UnitView}
      (action : intent.action = .targetUnit target)
      (found : situation.target target = some unit) :
      FixedAim intent situation ⟨.unit unit.tag, unit.position⟩

/-- Whether the order is aimed at random points of the disk around a center. -/
def Scatters (intent : Intent) (situation : Situation) (center : Point) : Prop :=
  ∃ place, intent.action = .nearLocation place ∧ intent.ability.buildsGasStructure = false ∧
    situation.locate place = some center

/-- What an order is aimed at with some random numbers, and the random numbers after that. -/
inductive AimsAt (intent : Intent) (situation : Situation) (random : Random) :
    Aim → Random → Prop
  | fixed {aim : Aim} (fixed : intent.FixedAim situation aim) :
      AimsAt intent situation random aim random
  | scattered {center : Point} (scatters : intent.Scatters situation center) :
      AimsAt intent situation random
        ⟨.point (random.pointInDisk center intent.proximity).1,
          (random.pointInDisk center intent.proximity).1⟩
        (random.pointInDisk center intent.proximity).2

/-- The aim of an order for a location or for a unit. -/
def aim? (intent : Intent) (situation : Situation) (random : Random) : Option Aim × Random :=
  match intent.action with
  | .exactLocation place | .nearLocation place => intent.aimAt situation place random
  | .targetUnit target =>
    ((situation.target target).map fun unit => ⟨.unit unit.tag, unit.position⟩, random)
  | .simple | .harvestMineralsNear _ | .harvestGasNear _ | .groupEdit _ _ => (none, random)

/-- At a place that is not known nothing can be aimed at. -/
theorem aimAt_of_locate_eq_none {place : Place} (h : situation.locate place = none) :
    intent.aimAt situation place random = (none, random) := by
  rw [aimAt, h]

/-- A gas structure is aimed at the nearest free geyser, if there is one. -/
theorem aimAt_of_gas {place : Place} {center : Point}
    (located : situation.locate place = some center)
    (gas : intent.ability.buildsGasStructure = true) :
    intent.aimAt situation place random =
      ((situation.snapshot.nearestFreeGeyser? center situation.claimRadius).map fun geyser =>
        ⟨.unit geyser.tag, geyser.position⟩, random) := by
  simp only [aimAt, located, gas, if_true]

/-- Anything else is aimed at a point near the place. -/
theorem aimAt_of_not_gas {place : Place} {center : Point}
    (located : situation.locate place = some center)
    (gas : intent.ability.buildsGasStructure = false) :
    intent.aimAt situation place random =
      (some ⟨.point (intent.pointNear center random).1, (intent.pointNear center random).1⟩,
        (intent.pointNear center random).2) := by
  simp only [aimAt, located, gas, Bool.false_eq_true, if_false]

/-- An order that scatters is aimed at a random point of its disk. -/
theorem aim?_of_scatters {center : Point} (h : intent.Scatters situation center) :
    intent.aim? situation random =
      (some ⟨.point (random.pointInDisk center intent.proximity).1,
          (random.pointInDisk center intent.proximity).1⟩,
        (random.pointInDisk center intent.proximity).2) := by
  obtain ⟨place, action, gas, located⟩ := h
  simp only [aim?, action, aimAt_of_not_gas located gas, pointNear]

section

variable (distinct : (situation.snapshot.units.map (·.tag)).Nodup)
include distinct

/-- An order with a fixed aim is aimed at it and draws nothing. -/
theorem aim?_of_fixedAim (h : intent.FixedAim situation aim) :
    intent.aim? situation random = (some aim, random) := by
  cases h with
  | geyser action gas located nearest =>
    have hfound := (Snapshot.nearestFreeGeyser?_eq_some_iff distinct).mpr nearest
    rcases action with action | action <;>
      simp only [aim?, action, aimAt_of_gas located gas, hfound, Option.map_some]
  | point action gas located =>
    simp only [aim?, action, aimAt_of_not_gas located gas, pointNear]
  | unit action found => simp only [aim?, action, found, Option.map_some]

/-- What an order for a location finds is what it is aimed at. -/
theorem aimsAt_of_aimAt {place : Place}
    (action : intent.action = .exactLocation place ∨ intent.action = .nearLocation place)
    (h : intent.aimAt situation place random = (some aim, after)) :
    intent.AimsAt situation random aim after := by
  cases located : situation.locate place with
  | none =>
    rw [aimAt_of_locate_eq_none located] at h
    cases h
  | some center =>
    -- Only gas structures look for a geyser, everything else goes to a point.
    cases gas : intent.ability.buildsGasStructure with
    | true =>
      rw [aimAt_of_gas located gas] at h
      obtain ⟨hfound, rfl⟩ := Prod.mk.inj h
      obtain ⟨geyser, hgeyser, rfl⟩ := Option.map_eq_some_iff.mp hfound
      exact .fixed (.geyser action gas located
        ((Snapshot.nearestFreeGeyser?_eq_some_iff distinct).mp hgeyser))
    | false =>
      rw [aimAt_of_not_gas located gas] at h
      obtain ⟨haim, rfl⟩ := Prod.mk.inj h
      obtain rfl := Option.some.inj haim
      rcases action with action | action
      · simp only [pointNear, action]
        exact .fixed (.point action gas located)
      · simp only [pointNear, action]
        exact .scattered ⟨place, action, gas, located⟩

/-- **The aim that is found is what the order is aimed at.** -/
theorem aim?_eq_some_iff :
    intent.aim? situation random = (some aim, after) ↔
      intent.AimsAt situation random aim after := by
  constructor
  · intro h
    cases action : intent.action with
    | exactLocation place =>
      simp only [aim?, action] at h
      exact aimsAt_of_aimAt distinct (Or.inl action) h
    | nearLocation place =>
      simp only [aim?, action] at h
      exact aimsAt_of_aimAt distinct (Or.inr action) h
    | targetUnit target =>
      simp only [aim?, action, Prod.mk.injEq] at h
      obtain ⟨hfound, rfl⟩ := h
      obtain ⟨unit, hunit, rfl⟩ := Option.map_eq_some_iff.mp hfound
      exact .fixed (.unit action hunit)
    | simple | harvestMineralsNear place | harvestGasNear place | groupEdit group edit =>
      simp only [aim?, action, Prod.mk.injEq, reduceCtorEq, false_and] at h
  · -- The other direction is what the two lemmas about the aim compute.
    rintro (fixed | scatters)
    · exact aim?_of_fixedAim distinct fixed
    · exact aim?_of_scatters scatters

/-- Whatever an order is aimed at, the same random numbers are left. -/
theorem AimsAt.random_eq {aim' : Aim} {after' : Random}
    (h : intent.AimsAt situation random aim after)
    (h' : intent.AimsAt situation random aim' after') : after = after' := by
  have hfound := (aim?_eq_some_iff distinct).mpr h
  rw [(aim?_eq_some_iff distinct).mpr h'] at hfound
  exact (congrArg Prod.snd hfound).symm

end

/-- An order that is aimed at nothing draws nothing. -/
theorem random_of_aim?_eq_none (h : intent.aim? situation random = (none, after)) :
    after = random := by
  unfold aim? at h
  cases action : intent.action with
  | exactLocation place | nearLocation place =>
    simp only [action] at h
    have hdrawn := random_aimAt_of_none (congrArg Prod.fst h)
    rw [h] at hdrawn
    exact hdrawn
  | targetUnit target =>
    simp only [action] at h
    exact (Prod.mk.inj h).2.symm
  | simple | harvestMineralsNear place | harvestGasNear place | groupEdit group edit =>
    simp only [action] at h
    exact (Prod.mk.inj h).2.symm

/-! ## Targets -/

/-- Whether the order has a target that does not depend on chance. -/
inductive FixedTarget (intent : Intent) (situation : Situation) : CommandTarget → Prop
  | nothing (action : intent.action = .simple) : FixedTarget intent situation .nothing
  | aim {aim : Aim} (fixed : intent.FixedAim situation aim) :
      FixedTarget intent situation aim.target
  | minerals {place : Place} {center : Point} {field : UnitView}
      (action : intent.action = .harvestMineralsNear place)
      (located : situation.locate place = some center)
      (nearest : field.IsNearest center situation.snapshot.IsMineralField) :
      FixedTarget intent situation (.unit field.tag)
  | gas {place : Place} {center : Point} {site : UnitView}
      (action : intent.action = .harvestGasNear place)
      (located : situation.locate place = some center)
      (nearest : site.IsNearest center situation.snapshot.IsGasSite) :
      FixedTarget intent situation (.unit site.tag)

/-- Whether the order has a target now, be it a fixed one or a random point. -/
def Resolves (intent : Intent) (situation : Situation) : Prop :=
  (∃ target, intent.FixedTarget situation target) ∨ ∃ center, intent.Scatters situation center

/-- Only an action that aims has a fixed aim. -/
theorem FixedAim.aims (h : intent.FixedAim situation aim) : intent.action.kind.aims = true := by
  cases h with
  | geyser action =>
    rcases action with action | action <;>
    · rw [action]
      rfl
  | point action | unit action =>
    rw [action]
    rfl

theorem Scatters.aims {center : Point} (h : intent.Scatters situation center) :
    intent.action.kind.aims = true := by
  obtain ⟨place, action, -, -⟩ := h
  rw [action]
  rfl

/-- The target of an order with an aim is that of the aim. -/
theorem target_eq_aim? (h : intent.action.kind.aims = true) :
    intent.target situation random =
      ((intent.aim? situation random).1.map (·.target), (intent.aim? situation random).2) := by
  unfold target aim?
  cases action : intent.action with
  | exactLocation place | nearLocation place => rfl
  | targetUnit target => simp only [Option.map_map, Function.comp_def]
  | simple | harvestMineralsNear place | harvestGasNear place | groupEdit group edit =>
    rw [action] at h
    cases h

/-- The target of an order that scatters is a random point of its disk. -/
theorem target_of_scatters {center : Point} (h : intent.Scatters situation center) :
    intent.target situation random =
      (some (.point (random.pointInDisk center intent.proximity).1),
        (random.pointInDisk center intent.proximity).2) := by
  rw [target_eq_aim? h.aims, aim?_of_scatters h, Option.map_some]

section

variable (distinct : (situation.snapshot.units.map (·.tag)).Nodup)
include distinct

/-- The target of an order with a fixed one is that target, and nothing is drawn. -/
theorem target_of_fixedTarget {target : CommandTarget} (h : intent.FixedTarget situation target) :
    intent.target situation random = (some target, random) := by
  cases h with
  | nothing action => simp only [Intent.target, action]
  | aim fixed => rw [target_eq_aim? fixed.aims, aim?_of_fixedAim distinct fixed, Option.map_some]
  | minerals action located nearest =>
    have hfound := (Snapshot.nearestMineralPatch?_eq_some_iff distinct).mpr nearest
    simp only [Intent.target, action, located, Option.bind_some, hfound, Option.map_some]
  | gas action located nearest =>
    have hfound := (Snapshot.nearestGasStructure?_eq_some_iff distinct).mpr nearest
    simp only [Intent.target, action, located, Option.bind_some, hfound, Option.map_some]

/-- An order that gets a target has one that does not depend on chance, or it is for random
points. -/
theorem resolves_of_target {target : CommandTarget}
    (h : (intent.target situation random).1 = some target) : intent.Resolves situation := by
  have haimed : intent.action.kind.aims = true → intent.Resolves situation := by
    intro aims
    rw [target_eq_aim? aims] at h
    rcases haim : intent.aim? situation random with ⟨found, after⟩
    rw [haim] at h
    obtain ⟨aim, rfl, rfl⟩ := Option.map_eq_some_iff.mp h
    rcases (aim?_eq_some_iff distinct).mp haim with fixed | scatters
    · exact Or.inl ⟨_, .aim fixed⟩
    · exact Or.inr ⟨_, scatters⟩
  -- The first three aim, and the aim is their target; the others have a target of their own.
  cases action : intent.action with
  | exactLocation place | nearLocation place | targetUnit unit =>
    rw [action] at haimed
    exact haimed rfl
  | simple => exact Or.inl ⟨_, .nothing action⟩
  | harvestMineralsNear place =>
    simp only [Intent.target, action] at h
    obtain ⟨field, hfield, rfl⟩ := Option.map_eq_some_iff.mp h
    obtain ⟨center, located, hfound⟩ := Option.bind_eq_some_iff.mp hfield
    exact Or.inl ⟨_, .minerals action located
      ((Snapshot.nearestMineralPatch?_eq_some_iff distinct).mp hfound)⟩
  | harvestGasNear place =>
    simp only [Intent.target, action] at h
    obtain ⟨site, hsite, rfl⟩ := Option.map_eq_some_iff.mp h
    obtain ⟨center, located, hfound⟩ := Option.bind_eq_some_iff.mp hsite
    exact Or.inl ⟨_, .gas action located
      ((Snapshot.nearestGasStructure?_eq_some_iff distinct).mp hfound)⟩
  | groupEdit group edit =>
    simp only [Intent.target, action, reduceCtorEq] at h

/-- **An order gets a target just if it has one now**, whatever the random numbers are; otherwise it
draws nothing. -/
theorem target_cases (intent : Intent) (random : Random) :
    intent.Resolves situation ∧ (∃ target after,
        intent.target situation random = (some target, after)) ∨
      ¬ intent.Resolves situation ∧ intent.target situation random = (none, random) := by
  rcases htarget : intent.target situation random with ⟨_ | target, after⟩
  · refine Or.inr ⟨?_, by rw [random_of_target_eq_none htarget]⟩
    rintro (⟨target, fixed⟩ | ⟨center, scatters⟩)
    · rw [target_of_fixedTarget distinct fixed] at htarget
      cases htarget
    · rw [target_of_scatters scatters] at htarget
      cases htarget
  · exact Or.inl ⟨resolves_of_target distinct (by rw [htarget]), target, after, rfl⟩

end

end Intent

end Skirmish
