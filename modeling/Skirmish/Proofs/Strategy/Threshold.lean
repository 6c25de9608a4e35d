import Mathlib.Algebra.Ring.Int.Defs
import Mathlib.Data.Nat.Cast.Order.Basic
import Skirmish.Strategy.Condition

/-!
# Thresholds

A condition bounds a metric of the world, and `Condition.Bounds` says which number each condition is
about: the resources, the clock, the food or a number of units, as an integer without limits.

Nothing is lost when a condition is tested, with one exception. The clock counts up to `2 ^ 64`, and
it is read as a signed number; so from `2 ^ 63` ticks on, a condition on the time is tested with
`2 ^ 64` ticks too few (`Condition.Bounds.measure_eq_sub`). Until then every condition is met just if
its number is on the right side of the value, the value included.
-/

namespace Skirmish

/-- Whether a bound by a value admits a number. The value itself is admitted. -/
def Bound.Admits : Bound → Int → Int → Prop
  | .atLeast, value, number => value ≤ number
  | .atMost, value, number => number ≤ value

/-- Whether the clock is still read as it stands. -/
def Snapshot.ClockInRange (snapshot : Snapshot) : Prop := snapshot.gameLoop.toNat < 2 ^ 63

instance (snapshot : Snapshot) : Decidable snapshot.ClockInRange :=
  inferInstanceAs (Decidable (_ < _))

namespace Condition

/-- Whether a condition bounds a number, which depends on the snapshot, by a value. Units are
strictly inside a disk if the square of their distance from its center is less than the square of
its radius. -/
inductive Bounds : Condition → Bound → Int64 → (Snapshot → Int) → Prop
  | minerals {bound : Bound} {value : Int64} :
      Bounds (.ofKind ⟨bound, .minerals⟩ value) bound value fun snapshot =>
        snapshot.minerals.toNat
  | gas {bound : Bound} {value : Int64} :
      Bounds (.ofKind ⟨bound, .gas⟩ value) bound value fun snapshot => snapshot.vespene.toNat
  | time {bound : Bound} {value : Int64} :
      Bounds (.ofKind ⟨bound, .time⟩ value) bound value fun snapshot => snapshot.gameLoop.toNat
  | food {bound : Bound} {value : Int64} :
      Bounds (.ofKind ⟨bound, .food⟩ value) bound value fun snapshot => snapshot.foodUsed.toNat
  | foodCap {bound : Bound} {value : Int64} :
      Bounds (.ofKind ⟨bound, .foodCap⟩ value) bound value fun snapshot =>
        snapshot.foodCap.toNat
  | foodHeadroom {bound : Bound} {value : Int64} :
      Bounds (.ofKind ⟨bound, .foodHeadroom⟩ value) bound value fun snapshot =>
        snapshot.foodCap.toNat - snapshot.foodUsed.toNat
  | units {bound : Bound} {value : Int64} {type : UnitType} :
      Bounds (.unitCount bound value type) bound value fun snapshot =>
        (snapshot.units.filter fun unit => unit.alliance = .own ∧ unit.unitType = type).length
  | unitsNear {bound : Bound} {value : Int64} {type : UnitType} {center : Point}
      {radius : Number.Single} :
      Bounds (.unitCountNear bound value type center radius) bound value fun snapshot =>
        (snapshot.units.filter fun unit => unit.alliance = .own ∧ unit.unitType = type ∧
          unit.position.distanceSquared center < radius * radius).length

variable {condition : Condition} {bound : Bound} {value : Int64} {number : Snapshot → Int}
  {snapshot : Snapshot}

/-! ## What is measured -/

/-- Half of the range of the clock is read as it stands, and the other half as negative numbers. -/
theorem toInt_toInt64 (n : UInt64) :
    n.toInt64.toInt = if n.toNat < 2 ^ 63 then (n.toNat : Int) else n.toNat - 2 ^ 64 := by
  have hread : n.toInt64.toInt =
      if 2 * n.toNat < 2 ^ 64 then (n.toNat : Int) else n.toNat - 2 ^ 64 :=
    BitVec.toInt_eq_toNat_cond n.toBitVec
  have hhalf : 2 * n.toNat < 2 ^ 64 ↔ n.toNat < 2 ^ 63 := by omega
  rw [hread]
  simp only [hhalf]

/-- The units that a condition counts are units of ours. -/
theorem countUnits_eq {count : UnitCount} (hcount : condition.count = some count)
    (snapshot : Snapshot) : condition.countUnits snapshot =
      (snapshot.units.filter fun unit => unit.isOwn && count.counts unit).length := by
  simp only [countUnits, hcount]
  rw [Snapshot.ownUnits, List.countP_eq_length_filter, List.filter_filter]
  simp only [Bool.and_comm]

/-- A condition is tested with the number that it bounds, unless the clock is out of range. -/
theorem Bounds.measure_eq (bounds : condition.Bounds bound value number)
    (exact : condition.kind.metric = .time → snapshot.ClockInRange) :
    condition.measure snapshot = number snapshot := by
  cases bounds with
  | minerals | gas | food | foodCap | foodHeadroom => rfl
  | time => exact (toInt_toInt64 snapshot.gameLoop).trans (if_pos (exact rfl))
  | units =>
    refine congrArg Int.ofNat ((countUnits_eq rfl snapshot).trans ?_)
    simp only [UnitView.isOwn, UnitCount.counts, Bool.and_true, Bool.decide_and]
  | unitsNear =>
    refine congrArg Int.ofNat ((countUnits_eq rfl snapshot).trans ?_)
    simp only [UnitView.isOwn, UnitCount.counts, Bool.decide_and]

/-- A clock out of range is read with `2 ^ 64` ticks too few. -/
theorem Bounds.measure_eq_sub (bounds : condition.Bounds bound value number)
    (timed : condition.kind.metric = .time) (late : ¬ snapshot.ClockInRange) :
    condition.measure snapshot = number snapshot - 2 ^ 64 := by
  cases bounds with
  | minerals | gas | food | foodCap | foodHeadroom | units | unitsNear => cases timed
  | time => exact (toInt_toInt64 snapshot.gameLoop).trans (if_neg late)

/-- A condition is met if its bound admits what is measured. -/
theorem Bounds.isMet_iff_measure (bounds : condition.Bounds bound value number)
    (snapshot : Snapshot) :
    condition.isMet snapshot = true ↔ bound.Admits value.toInt (condition.measure snapshot) := by
  cases bounds <;> cases bound <;> exact decide_eq_true_iff

/-- A condition is met just if its bound admits its number, unless the clock is out of range. -/
theorem Bounds.isMet_iff (bounds : condition.Bounds bound value number)
    (exact : condition.kind.metric = .time → snapshot.ClockInRange) :
    condition.isMet snapshot = true ↔ bound.Admits value.toInt (number snapshot) := by
  rw [bounds.isMet_iff_measure, bounds.measure_eq exact]

/-! ## Thresholds -/

/-- **What it takes to meet a condition.**

* Its number has to be on the right side of the value, whatever the snapshot is; only a condition on
  the time needs a clock in range for that.
* If the clock is out of range, a condition on the time is tested with `2 ^ 64` ticks too few.
* As long as the clock is in range, time that has come stays come, and time that has run out stays
  run out. -/
theorem met_iff_admitted (bounds : condition.Bounds bound value number) :
    (∀ snapshot : Snapshot, (condition.kind.metric = .time → snapshot.ClockInRange) →
        (condition.isMet snapshot = true ↔ bound.Admits value.toInt (number snapshot))) ∧
      (∀ snapshot : Snapshot, condition.kind.metric = .time → ¬ snapshot.ClockInRange →
        (condition.isMet snapshot = true ↔
          bound.Admits value.toInt (number snapshot - 2 ^ 64))) ∧
      ∀ earlier later : Snapshot, earlier.gameLoop ≤ later.gameLoop → later.ClockInRange →
        ((ofKind ⟨.atLeast, .time⟩ value).isMet earlier = true →
          (ofKind ⟨.atLeast, .time⟩ value).isMet later = true) ∧
        ((ofKind ⟨.atMost, .time⟩ value).isMet earlier = false →
          (ofKind ⟨.atMost, .time⟩ value).isMet later = false) := by
  refine ⟨fun snapshot exact => bounds.isMet_iff exact, ?_, ?_⟩
  · intro snapshot timed late
    rw [bounds.isMet_iff_measure, bounds.measure_eq_sub timed late]
  · -- A clock in range at the later time has been in range before.
    intro earlier later hle hlater
    have hticks : (earlier.gameLoop.toNat : Int) ≤ later.gameLoop.toNat :=
      Int.ofNat_le.mpr (UInt64.le_iff_toNat_le.mp hle)
    have hearlier : earlier.ClockInRange := lt_of_le_of_lt (UInt64.le_iff_toNat_le.mp hle) hlater
    constructor
    · rw [Bounds.time.isMet_iff fun _ => hearlier, Bounds.time.isMet_iff fun _ => hlater]
      exact fun come => come.trans hticks
    · rw [Bool.eq_false_iff, Bool.eq_false_iff, Ne, Ne, Bounds.time.isMet_iff fun _ => hearlier,
        Bounds.time.isMet_iff fun _ => hlater]
      exact fun spent still => spent (hticks.trans still)

/-! ## The end of the range -/

/-- The world at a tick, with nothing in it. -/
def atTick (gameLoop : UInt64) : Snapshot := { Snapshot.blank with gameLoop }

/-- On the last tick at which the clock is in range the longest time has come. On the tick after it
the clock is read as the smallest number there is, which is the time that runs out at once. -/
theorem met_iff_admitted_lastTick :
    (ofKind ⟨.atLeast, .time⟩ 9223372036854775807).isMet (atTick 9223372036854775807) = true ∧
      (ofKind ⟨.atMost, .time⟩ (-9223372036854775808)).isMet
        (atTick 9223372036854775808) = true := by
  obtain ⟨hexact, -, -⟩ :=
    met_iff_admitted (@Bounds.time .atLeast 9223372036854775807)
  obtain ⟨-, hlate, -⟩ :=
    met_iff_admitted (@Bounds.time .atMost (-9223372036854775808))
  have hlong := hexact (atTick 9223372036854775807) fun _ => by decide
  have hshort := hlate (atTick 9223372036854775808) rfl (by decide)
  exact ⟨hlong.mpr (by decide : (9223372036854775807 : Int) ≤ 9223372036854775807),
    hshort.mpr (by decide : (9223372036854775808 : Int) - 2 ^ 64 ≤ -9223372036854775808)⟩

/-- That every condition is met just if its bound admits its number cannot be said, nor that time
that has come stays come: after `2 ^ 63 - 1` ticks it has been at least no time, and on the next tick
it has not. -/
theorem clock_runs_out :
    (¬ ∀ condition bound value number, Bounds condition bound value number →
        ∀ snapshot : Snapshot,
          condition.isMet snapshot = true ↔ bound.Admits value.toInt (number snapshot)) ∧
      ¬ ∀ (value : Int64) (earlier later : Snapshot), earlier.gameLoop ≤ later.gameLoop →
        (ofKind ⟨.atLeast, .time⟩ value).isMet earlier = true →
          (ofKind ⟨.atLeast, .time⟩ value).isMet later = true := by
  -- From 2 ^ 63 on the clock is taken for a negative number.
  have hnever : (ofKind ⟨.atLeast, .time⟩ 0).isMet (atTick 9223372036854775808) = false := by
    decide
  constructor
  · intro exact
    have hmet := (exact _ _ _ _ (@Bounds.time .atLeast 0)
      (atTick 9223372036854775808)).mpr (by decide : (0 : Int) ≤ 9223372036854775808)
    rw [hnever] at hmet
    cases hmet
  · intro stays
    have hmet := stays 0 (atTick 9223372036854775807) (atTick 9223372036854775808) (by decide)
      (by decide)
    rw [hnever] at hmet
    cases hmet

end Condition

end Skirmish
