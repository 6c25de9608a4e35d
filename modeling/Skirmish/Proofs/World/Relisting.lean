import Mathlib.Data.List.Nodup
import Skirmish.Order.Place
import Skirmish.Proofs.Ordered.Least
import Skirmish.Roster.Basic
import Skirmish.Strategy.Rule

/-!
# Listing the units in another order

A snapshot lists its units in an order that means nothing. Here every question that is asked of a
snapshot is shown to have the same answer when the units are listed in another order: look-ups and
choices by tag because a tag names one unit, choices by distance because ties are broken by tag, and
counts and tests because they never see the order.

`Snapshot.Relisting` is the assumption that all of these share, and `Snapshot.relist` the snapshot
with the other listing.
-/

namespace Skirmish

namespace Snapshot

/-- The snapshot with other units. -/
def relist (snapshot : Snapshot) (units : List UnitView) : Snapshot := { snapshot with units }

/-- Whether a list has the units of a snapshot, of which no two share a tag. -/
structure Relisting (snapshot : Snapshot) (units : List UnitView) : Prop where
  perm : units.Perm snapshot.units
  distinct : (snapshot.units.map (·.tag)).Nodup

variable {snapshot : Snapshot} {units : List UnitView}

/-! ## Units by their tags -/

/-- A tag names one unit. -/
theorem eq_of_tag_eq (distinct : (snapshot.units.map (·.tag)).Nodup) {a b : UnitView}
    (ha : a ∈ snapshot.units) (hb : b ∈ snapshot.units) (h : a.tag = b.tag) : a = b :=
  List.inj_on_of_nodup_map distinct ha hb h

/-- A unit that is looked up is in the snapshot and has the tag. -/
theorem mem_of_unit? {tag : UnitTag} {unit : UnitView} (h : snapshot.unit? tag = some unit) :
    unit ∈ snapshot.units ∧ unit.tag = tag := by
  have htag := List.find?_some (p := fun unit : UnitView => decide (unit.tag = tag)) h
  exact ⟨List.mem_of_find?_eq_some h, of_decide_eq_true htag⟩

/-- What is looked up by a tag is the unit with that tag, wherever it is listed. -/
theorem unit?_eq_some_iff (distinct : (snapshot.units.map (·.tag)).Nodup) {tag : UnitTag}
    {unit : UnitView} :
    snapshot.unit? tag = some unit ↔ unit ∈ snapshot.units ∧ unit.tag = tag := by
  constructor
  · exact mem_of_unit?
  · rintro ⟨hmem, htag⟩
    cases h : snapshot.unit? tag with
    | none =>
      have hnone := List.find?_eq_none.mp h unit hmem
      exact absurd (decide_eq_true htag) hnone
    | some other =>
      obtain ⟨hother, htag'⟩ := mem_of_unit? h
      rw [eq_of_tag_eq distinct hother hmem (htag'.trans htag.symm)]

section

variable (h : snapshot.Relisting units)
include h

/-- Listed otherwise, no two units share a tag either. -/
theorem Relisting.distinct_relist : ((snapshot.relist units).units.map (·.tag)).Nodup :=
  (h.perm.map _).nodup_iff.mpr h.distinct

/-- Under each tag stands the same unit. -/
theorem unit?_relist (tag : UnitTag) : (snapshot.relist units).unit? tag = snapshot.unit? tag := by
  ext unit
  rw [unit?_eq_some_iff h.distinct_relist, unit?_eq_some_iff h.distinct]
  exact and_congr_left fun _ => h.perm.mem_iff

/-- Our units are the same, perhaps in another sequence. -/
theorem ownUnits_relist : (snapshot.relist units).ownUnits.Perm snapshot.ownUnits :=
  h.perm.filter _

/-! ## Choices -/

/-- The nearest unit is the same. -/
theorem nearestUnit?_relist (around : Point) (accepts : UnitView → Bool) :
    (snapshot.relist units).nearestUnit? around accepts = snapshot.nearestUnit? around accepts := by
  have hcandidates : (((snapshot.relist units).units.filter accepts).map (·.candidate)).Perm
      ((snapshot.units.filter accepts).map (·.candidate)) := (h.perm.filter accepts).map _
  unfold nearestUnit?
  rw [nearestTo_eq_of_perm around hcandidates]
  congr 1
  funext tag
  exact unit?_relist h tag

theorem nearestMineralPatch?_relist (around : Point) :
    (snapshot.relist units).nearestMineralPatch? around = snapshot.nearestMineralPatch? around :=
  nearestUnit?_relist h around isMineralSource

theorem nearestGasStructure?_relist (around : Point) :
    (snapshot.relist units).nearestGasStructure? around = snapshot.nearestGasStructure? around :=
  nearestUnit?_relist h around isGasSource

theorem isClaimed_relist (claimRadius : Number.Single) (position : Point) :
    (snapshot.relist units).isClaimed claimRadius position =
      snapshot.isClaimed claimRadius position :=
  (h.perm.filter _).any_eq

theorem nearestFreeGeyser?_relist (around : Point) (claimRadius : Number.Single) :
    (snapshot.relist units).nearestFreeGeyser? around claimRadius =
      snapshot.nearestFreeGeyser? around claimRadius := by
  unfold nearestFreeGeyser?
  rw [nearestUnit?_relist h]
  congr 1
  funext unit
  rw [isClaimed_relist h]

theorem firstOfType?_relist (type : UnitType) :
    (snapshot.relist units).firstOfType? type = snapshot.firstOfType? type := by
  refine least_key_eq_of_perm (·.tag) ?_ ((ownUnits_relist h).filter _)
  intro a ha b hb htag
  have hmem : ∀ {unit : UnitView}, unit ∈ (snapshot.relist units).ownUnits.filter (fun unit =>
      unit.unitType = type && unit.isComplete) → unit ∈ (snapshot.relist units).units :=
    fun hunit => (List.mem_filter.mp (List.mem_filter.mp hunit).1).1
  exact eq_of_tag_eq h.distinct_relist (hmem ha) (hmem hb) htag

/-! ## Conditions -/

/-- The same conditions are met. -/
theorem isMet_relist (condition : Condition) :
    condition.isMet (snapshot.relist units) = condition.isMet snapshot := by
  have hcount : condition.countUnits (snapshot.relist units) = condition.countUnits snapshot := by
    unfold Condition.countUnits
    split
    · exact (ownUnits_relist h).countP_eq _
    · rfl
  have hmeasure : condition.measure (snapshot.relist units) = condition.measure snapshot := by
    unfold Condition.measure
    rw [hcount]
    rfl
  unfold Condition.isMet
  rw [hmeasure]

/-- The same rules fire. -/
theorem firing_relist (rules : RuleSet) :
    rules.firing (snapshot.relist units) = rules.firing snapshot := by
  have hfires : ∀ rule : Rule, rule.fires (snapshot.relist units) = rule.fires snapshot := by
    intro rule
    unfold Rule.fires Trigger.holds
    simp only [isMet_relist h]
  unfold RuleSet.firing
  simp only [hfires]

/-! ## Positions -/

/-- Agents are moved one by one, and no agent is moved twice. -/
theorem syncPositions_relist (roster : Roster) :
    roster.syncPositions (snapshot.relist units) = roster.syncPositions snapshot := by
  unfold Roster.syncPositions
  refine (ownUnits_relist h).foldl_eq' ?_ roster
  intro a ha b hb roster
  by_cases htag : a.tag = b.tag
  · rw [eq_of_tag_eq h.distinct_relist (List.mem_filter.mp ha).1 (List.mem_filter.mp hb).1 htag]
  · ext1 tag
    rw [Table.get?_modify, Table.get?_modify, Table.get?_modify, Table.get?_modify]
    by_cases hta : tag = a.tag
    · have htb : tag ≠ b.tag := fun htb => htag (hta.symm.trans htb)
      rw [if_neg htb, if_pos hta, if_pos hta, if_neg htb]
    · rw [if_neg hta, if_neg hta]

end

end Snapshot

end Skirmish
