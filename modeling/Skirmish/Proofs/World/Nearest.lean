import Skirmish.Proofs.World.Relisting

/-!
# The nearest unit

Units are chosen by their distance to a point, and by their tags where that leaves the choice open.
`UnitView.IsNearest` says so without a search: the unit has the property that is asked for, none
with it is nearer, and none with it that is as near has a smaller tag.

A search by distance yields a tag first, and the unit is then looked up by it.
`Snapshot.nearestUnit?_eq_some_iff` says that this ends at the nearest unit, if a tag names one unit;
the three searches for resources are cases of it.
-/

namespace Skirmish

namespace UnitView

variable {unit other : UnitView} {around : Point} {wanted : UnitView → Prop}

/-- How far a unit is from a point, in the total order of numbers. -/
def remoteness (unit : UnitView) (around : Point) : Int :=
  Number.rank (unit.position.distanceSquared around)

/-- Whether a unit is the nearest to a point of all units with a property. -/
structure IsNearest (unit : UnitView) (around : Point) (wanted : UnitView → Prop) : Prop where
  meets : wanted unit
  least : ∀ other, wanted other → unit.remoteness around < other.remoteness around ∨
    unit.remoteness around = other.remoteness around ∧ unit.tag.number ≤ other.tag.number

/-- Who is nearest depends on who is asked for only. -/
theorem isNearest_congr {asked : UnitView → Prop} (h : ∀ other, asked other ↔ wanted other) :
    unit.IsNearest around asked ↔ unit.IsNearest around wanted := by
  have hsame : asked = wanted := funext fun other => propext (h other)
  rw [hsame]

/-- Two nearest units have the same tag. -/
theorem IsNearest.tag_eq (h : unit.IsNearest around wanted)
    (h' : other.IsNearest around wanted) : unit.tag = other.tag := by
  have hle := h.least other h'.meets
  have hge := h'.least unit h.meets
  have hnumber : unit.tag.number = other.tag.number := by
    rcases hle with hlt | ⟨heq, hle⟩
    · omega
    · rcases hge with hlt | ⟨-, hge⟩
      · omega
      · exact UInt64.le_antisymm hle hge
  cases hunit : unit.tag
  cases hother : other.tag
  rw [hunit, hother] at hnumber
  exact congrArg UnitTag.mk hnumber

/-- Of two units, the second one is not ranked before the first. -/
theorem not_precedes_candidate
    (h : Candidate.precedes around other.candidate unit.candidate = false) :
    unit.remoteness around < other.remoteness around ∨
      unit.remoteness around = other.remoteness around ∧ unit.tag.number ≤ other.tag.number := by
  obtain ⟨hfar, htie⟩ := Bool.or_eq_false_iff.mp h
  have hle : unit.remoteness around ≤ other.remoteness around :=
    Int.not_lt.mp (of_decide_eq_false hfar)
  rcases Int.lt_or_eq_of_le hle with hlt | heq
  · exact Or.inl hlt
  · refine Or.inr ⟨heq, ?_⟩
    rcases Bool.and_eq_false_iff.mp htie with hnot | htag
    · exact absurd heq.symm (of_decide_eq_false hnot)
    · exact UInt64.le_iff_toNat_le.mpr (Nat.not_lt.mp (of_decide_eq_false htag))

/-- **The tag that is found among some units is that of the nearest one.** -/
theorem exists_isNearest_of_nearestTo {units : List UnitView} {tag : UnitTag}
    (h : nearestTo around (units.map (·.candidate)) = some tag) :
    ∃ unit : UnitView, unit.tag = tag ∧ unit.IsNearest around (· ∈ units) := by
  obtain ⟨candidate, hleast, rfl⟩ := Option.map_eq_some_iff.mp h
  obtain ⟨unit, hunit, rfl⟩ := List.mem_map.mp (mem_of_least hleast)
  refine ⟨unit, rfl, hunit, fun other hother => not_precedes_candidate ?_⟩
  exact not_precedes_of_least (Ranking.candidate around) hleast _ (List.mem_map_of_mem hother)

/-- There is no nearest unit only if there is no unit. -/
theorem nearestTo_eq_none_iff {units : List UnitView} :
    nearestTo around (units.map (·.candidate)) = none ↔ units = [] := by
  rw [nearestTo, Option.map_eq_none_iff, least_eq_none_iff, List.map_eq_nil_iff]

end UnitView

namespace Snapshot

variable {snapshot : Snapshot} {unit : UnitView} {around : Point}

/-! ## Looking the nearest unit up -/

/-- A search ends without a unit if none is accepted. -/
theorem nearestUnit?_eq_none_iff {accepts : UnitView → Bool} :
    snapshot.nearestUnit? around accepts = none ↔
      ∀ unit ∈ snapshot.units, accepts unit = false := by
  have hempty : (snapshot.units.filter accepts = []) ↔
      ∀ unit ∈ snapshot.units, accepts unit = false := by
    simp only [List.filter_eq_nil_iff, Bool.not_eq_true]
  have hnone : nearestTo around ((snapshot.units.filter accepts).map (·.candidate)) = none ↔
      snapshot.units.filter accepts = [] := UnitView.nearestTo_eq_none_iff
  rw [← hempty, ← hnone]
  constructor
  · intro h
    cases hfound : nearestTo around ((snapshot.units.filter accepts).map (·.candidate)) with
    | none => rfl
    | some tag =>
      -- The tag that is found is that of a listed unit, so looking it up does not fail.
      obtain ⟨unit, rfl, hnearest⟩ := UnitView.exists_isNearest_of_nearestTo hfound
      rw [nearestUnit?, hfound, Option.bind_some] at h
      have hother := List.find?_eq_none.mp h unit (List.mem_filter.mp hnearest.meets).1
      exact absurd (decide_eq_true rfl) hother
  · intro h
    rw [nearestUnit?, h, Option.bind_none]

/-- **A search finds the nearest of the accepted units**, if a tag names one unit. -/
theorem nearestUnit?_eq_some_iff (distinct : (snapshot.units.map (·.tag)).Nodup)
    {accepts : UnitView → Bool} :
    snapshot.nearestUnit? around accepts = some unit ↔
      unit.IsNearest around fun unit => unit ∈ snapshot.units ∧ accepts unit = true := by
  have hmem : ∀ other, (other ∈ snapshot.units ∧ accepts other = true) ↔
      other ∈ snapshot.units.filter accepts := fun other => List.mem_filter.symm
  -- The search gives a tag, and with distinct tags the unit under it is the one that was found.
  have hfinds : ∀ found, snapshot.nearestUnit? around accepts = some found →
      found.IsNearest around fun unit => unit ∈ snapshot.units ∧ accepts unit = true := by
    intro found h
    obtain ⟨tag, htag, hlookup⟩ := Option.bind_eq_some_iff.mp h
    obtain ⟨nearest, rfl, hnearest⟩ := UnitView.exists_isNearest_of_nearestTo htag
    have hlisted := (List.mem_filter.mp hnearest.meets).1
    rw [(unit?_eq_some_iff distinct).mpr ⟨hlisted, rfl⟩] at hlookup
    rw [← Option.some.inj hlookup]
    exact (UnitView.isNearest_congr hmem).mpr hnearest
  constructor
  · exact hfinds unit
  · intro hnearest
    obtain ⟨hlisted, haccepted⟩ := hnearest.meets
    cases hfound : snapshot.nearestUnit? around accepts with
    | none =>
      rw [nearestUnit?_eq_none_iff.mp hfound unit hlisted] at haccepted
      cases haccepted
    | some found =>
      have hother := hfinds found hfound
      rw [eq_of_tag_eq distinct hother.meets.1 hlisted (hother.tag_eq hnearest)]

/-! ## Resources -/

/-- Whether a unit is a geyser that no gas structure claims. -/
structure IsFreeGeyser (snapshot : Snapshot) (claimRadius : Number.Single) (unit : UnitView) : Prop where
  listed : unit ∈ snapshot.units
  geyser : unit.unitType.isGeyser = true
  unclaimed : ∀ site ∈ snapshot.units, site.unitType.isGasStructure = true →
    ¬ site.position.distanceSquared unit.position ≤ claimRadius * claimRadius

/-- Whether a unit is a mineral field that belongs to nobody. -/
structure IsMineralField (snapshot : Snapshot) (unit : UnitView) : Prop where
  listed : unit ∈ snapshot.units
  neutral : unit.alliance = .neutral
  minerals : unit.unitType.isMineralPatch = true

/-- Whether a unit is a finished gas structure of our own. -/
structure IsGasSite (snapshot : Snapshot) (unit : UnitView) : Prop where
  listed : unit ∈ snapshot.units
  own : unit.alliance = .own
  gas : unit.unitType.isGasStructure = true
  finished : UnitView.finished ≤ unit.buildProgress

/-- A free geyser, as the lookup tests it. -/
theorem isFreeGeyser_iff {claimRadius : Number.Single} :
    snapshot.IsFreeGeyser claimRadius unit ↔ unit ∈ snapshot.units ∧
      (unit.unitType.isGeyser && !snapshot.isClaimed claimRadius unit.position) = true := by
  have hclaimed : snapshot.isClaimed claimRadius unit.position = false ↔
      ∀ site ∈ snapshot.units, site.unitType.isGasStructure = true →
        ¬ site.position.distanceSquared unit.position ≤ claimRadius * claimRadius := by
    simp only [isClaimed, List.any_eq_false, List.mem_filter, decide_eq_true_eq, and_imp]
  rw [Bool.and_eq_true, Bool.not_eq_true', hclaimed]
  exact ⟨fun h => ⟨h.listed, h.geyser, h.unclaimed⟩, fun h => ⟨h.1, h.2.1, h.2.2⟩⟩

theorem isMineralField_iff :
    snapshot.IsMineralField unit ↔ unit ∈ snapshot.units ∧ isMineralSource unit = true := by
  rw [isMineralSource, Bool.and_eq_true, decide_eq_true_eq]
  exact ⟨fun h => ⟨h.listed, h.neutral, h.minerals⟩, fun h => ⟨h.1, h.2.1, h.2.2⟩⟩

theorem isGasSite_iff :
    snapshot.IsGasSite unit ↔ unit ∈ snapshot.units ∧ isGasSource unit = true := by
  rw [isGasSource, UnitView.isOwn, UnitView.isComplete, Bool.and_eq_true, Bool.and_eq_true,
    decide_eq_true_eq, decide_eq_true_eq]
  exact ⟨fun h => ⟨h.listed, ⟨h.own, h.gas⟩, h.finished⟩,
    fun h => ⟨h.1, h.2.1.1, h.2.1.2, h.2.2⟩⟩

section

variable (distinct : (snapshot.units.map (·.tag)).Nodup)
include distinct

/-- The lookup of a free geyser finds the nearest one. -/
theorem nearestFreeGeyser?_eq_some_iff {claimRadius : Number.Single} :
    snapshot.nearestFreeGeyser? around claimRadius = some unit ↔
      unit.IsNearest around (snapshot.IsFreeGeyser claimRadius) := by
  rw [nearestFreeGeyser?, nearestUnit?_eq_some_iff distinct]
  exact (UnitView.isNearest_congr fun _ => isFreeGeyser_iff).symm

/-- The lookup of a mineral patch finds the nearest mineral field. -/
theorem nearestMineralPatch?_eq_some_iff :
    snapshot.nearestMineralPatch? around = some unit ↔
      unit.IsNearest around snapshot.IsMineralField := by
  rw [nearestMineralPatch?, nearestUnit?_eq_some_iff distinct]
  exact (UnitView.isNearest_congr fun _ => isMineralField_iff).symm

/-- The lookup of a gas structure finds the nearest gas site. -/
theorem nearestGasStructure?_eq_some_iff :
    snapshot.nearestGasStructure? around = some unit ↔
      unit.IsNearest around snapshot.IsGasSite := by
  rw [nearestGasStructure?, nearestUnit?_eq_some_iff distinct]
  exact (UnitView.isNearest_congr fun _ => isGasSite_iff).symm

end

end Snapshot

end Skirmish
