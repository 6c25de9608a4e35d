import Skirmish.Proofs.Number.TotalOrder
import Skirmish.Proofs.World.Nearest

/-!
# Lookups by distance

`Candidate.IsFirst` says which of several candidates is meant by the nearest one: the one at the
smallest distance in the total order of numbers (`Number.Before`), also where distances are no numbers,
and of several at the same distance the one with the smallest tag. `nearestTo` gives its tag whenever
there are candidates, in whatever order they are listed, and the lookups of resources find a unit with
that property whenever there is one to be found (`lookups_find_first`).
-/

namespace Skirmish

namespace Candidate

/-- Whether a candidate comes first or ties with another one, by distance and then by tag. -/
def NotBehind (target : Point) (a b : Candidate) : Prop :=
  Number.Before (a.2.distanceSquared target) (b.2.distanceSquared target) ∨
    a.2.distanceSquared target = b.2.distanceSquared target ∧ a.1.number ≤ b.1.number

/-- Whether a candidate is the nearest of several, by distance and then by tag. -/
structure IsFirst (target : Point) (candidates : List Candidate) (a : Candidate) : Prop where
  listed : a ∈ candidates
  notBehind : ∀ b ∈ candidates, a.NotBehind target b

variable {target : Point} {a b : Candidate} {candidates : List Candidate}

/-- A candidate is not behind another one if its distance ranks lower, or ranks the same and its tag
is no greater. -/
theorem notBehind_iff_rank : NotBehind target a b ↔
    Number.rank (a.2.distanceSquared target) < Number.rank (b.2.distanceSquared target) ∨
      Number.rank (a.2.distanceSquared target) = Number.rank (b.2.distanceSquared target) ∧
        a.1.number ≤ b.1.number := by
  rw [NotBehind, Number.rank_lt_iff, Number.rank_eq_iff]

/-- A candidate is not behind another one exactly if the search does not prefer that one. -/
theorem notBehind_iff : NotBehind target a b ↔ precedes target b a = false := by
  have htag : Key.precedes b.1 a.1 = false ↔ a.1.number ≤ b.1.number := by
    rw [UInt64.le_iff_toNat_le, ← Nat.not_lt]
    exact decide_eq_false_iff_not
  rw [notBehind_iff_rank, precedes, Bool.or_eq_false_iff, Bool.and_eq_false_iff,
    decide_eq_false_iff_not, decide_eq_false_iff_not, htag]
  constructor
  · rintro (hlt | ⟨heq, hle⟩)
    · exact ⟨by omega, Or.inl (by omega)⟩
    · exact ⟨by omega, Or.inr hle⟩
  · rintro ⟨hnot, hne | hle⟩
    · exact Or.inl (by omega)
    · rcases Int.lt_or_eq_of_le (Int.not_lt.mp hnot) with hlt | heq
      · exact Or.inl hlt
      · exact Or.inr ⟨heq, hle⟩

/-- Two nearest candidates have the same tag. -/
theorem IsFirst.tag_eq (ha : IsFirst target candidates a) (hb : IsFirst target candidates b) :
    a.1 = b.1 :=
  tag_eq_of_tie (notBehind_iff.mp (hb.notBehind a ha.listed))
    (notBehind_iff.mp (ha.notBehind b hb.listed))

end Candidate

/-- There is no nearest candidate only if there is no candidate. -/
theorem nearestTo_eq_none_iff {target : Point} {candidates : List Candidate} :
    nearestTo target candidates = none ↔ candidates = [] := by
  rw [nearestTo, Option.map_eq_none_iff, least_eq_none_iff]

/-- The tag that is chosen is that of the nearest candidate. -/
theorem nearestTo_eq_some_iff {target : Point} {candidates : List Candidate} {tag : UnitTag} :
    nearestTo target candidates = some tag ↔
      ∃ a, Candidate.IsFirst target candidates a ∧ a.1 = tag := by
  have hfinds : ∀ found, nearestTo target candidates = some found →
      ∃ a, Candidate.IsFirst target candidates a ∧ a.1 = found := by
    intro found h
    obtain ⟨a, hleast, htag⟩ := Option.map_eq_some_iff.mp h
    have hmin := not_precedes_of_least (Ranking.candidate target) hleast
    exact ⟨a, ⟨mem_of_least hleast, fun b hb => Candidate.notBehind_iff.mpr (hmin b hb)⟩, htag⟩
  refine ⟨hfinds tag, ?_⟩
  rintro ⟨a, ha, rfl⟩
  cases hfound : nearestTo target candidates with
  | none =>
    rw [nearestTo_eq_none_iff.mp hfound] at ha
    cases ha.listed
  | some found =>
    obtain ⟨b, hb, rfl⟩ := hfinds found hfound
    rw [hb.tag_eq ha]

namespace Snapshot

/-- What is promised of a lookup of a unit with a property around a point. -/
structure FindsFirst (around : Point) (wanted : UnitView → Prop) (found : Option UnitView) :
    Prop where
  none_iff : found = none ↔ ∀ unit, ¬wanted unit
  some_iff : ∀ unit, found = some unit ↔ wanted unit ∧
    ∀ other, wanted other → Candidate.NotBehind around unit.candidate other.candidate

/-- A search finds the first of the units that it accepts. -/
theorem findsFirst_nearestUnit? {snapshot : Snapshot}
    (distinct : (snapshot.units.map (·.tag)).Nodup) (around : Point) {accepts : UnitView → Bool}
    {wanted : UnitView → Prop}
    (meaning : ∀ unit, wanted unit ↔ unit ∈ snapshot.units ∧ accepts unit = true) :
    FindsFirst around wanted (snapshot.nearestUnit? around accepts) where
  none_iff := by
    rw [nearestUnit?_eq_none_iff]
    simp only [meaning, not_and, Bool.not_eq_true]
  some_iff unit := by
    rw [nearestUnit?_eq_some_iff distinct, UnitView.isNearest_congr fun unit => (meaning unit).symm]
    simp only [Candidate.notBehind_iff_rank]
    exact ⟨fun h => ⟨h.meets, h.least⟩, fun h => ⟨h.1, h.2⟩⟩

end Snapshot

/-- **Lookups by distance find the first candidate, by distance and then by tag.** -/
theorem lookups_find_first :
    (∀ target candidates, nearestTo target candidates = none ↔ candidates = []) ∧
    (∀ target candidates tag, nearestTo target candidates = some tag ↔
      ∃ a, Candidate.IsFirst target candidates a ∧ a.1 = tag) ∧
    (∀ target candidates listing, candidates.Perm listing →
      nearestTo target listing = nearestTo target candidates) ∧
    ∀ snapshot : Snapshot, (snapshot.units.map (·.tag)).Nodup → ∀ around,
      Snapshot.FindsFirst around snapshot.IsMineralField (snapshot.nearestMineralPatch? around) ∧
      (∀ claimRadius, Snapshot.FindsFirst around (snapshot.IsFreeGeyser claimRadius)
        (snapshot.nearestFreeGeyser? around claimRadius)) ∧
      Snapshot.FindsFirst around snapshot.IsGasSite (snapshot.nearestGasStructure? around) := by
  refine ⟨fun _ _ => nearestTo_eq_none_iff, fun _ _ _ => nearestTo_eq_some_iff,
    fun target _ _ h => (nearestTo_eq_of_perm target h).symm, fun snapshot distinct around => ?_⟩
  exact ⟨Snapshot.findsFirst_nearestUnit? distinct around fun _ => Snapshot.isMineralField_iff,
    fun _ => Snapshot.findsFirst_nearestUnit? distinct around fun _ => Snapshot.isFreeGeyser_iff,
    Snapshot.findsFirst_nearestUnit? distinct around fun _ => Snapshot.isGasSite_iff⟩

namespace SmallGame

/-- A mineral field at a distance of five from the origin. -/
def farField : UnitView :=
  { UnitView.ofType ⟨1⟩ .neutralMineralField ⟨3, 4⟩ with alliance := .neutral }

/-- A mineral field at a distance of two. -/
def nearField : UnitView :=
  { UnitView.ofType ⟨2⟩ .neutralMineralField ⟨0, -2⟩ with alliance := .neutral }

/-- A snapshot of two mineral fields. -/
def twoFields : Snapshot := { Snapshot.blank with units := [farField, nearField] }

theorem lookups_find_first_twoFields :
    nearestTo .origin [nearField.candidate, farField.candidate] =
        nearestTo .origin [farField.candidate, nearField.candidate] ∧
      (twoFields.units.map (·.tag)).Nodup ∧ twoFields.nearestMineralPatch? .origin = some nearField ∧
      ∀ other, twoFields.IsMineralField other →
        Candidate.NotBehind .origin nearField.candidate other.candidate := by
  have hdistinct : (twoFields.units.map (·.tag)).Nodup := by decide
  have hfound : twoFields.nearestMineralPatch? .origin = some nearField := by decide
  have hfinds := (lookups_find_first.2.2.2 twoFields hdistinct .origin).1
  exact ⟨lookups_find_first.2.2.1 _ _ _ (.swap _ _ []), hdistinct, hfound,
    ((hfinds.some_iff nearField).mp hfound).2⟩

end SmallGame

/-! ## Distances that are no numbers -/

/-- Whether both coordinates of a point are numbers, if only infinite ones. -/
def Point.HasCoordinates (p : Point) : Prop := p.x.isNaN = false ∧ p.y.isNaN = false

/-- The squared distance of two points with coordinates can be a NaN, since both may be infinitely
far away, but it is the negative one. -/
theorem Point.not_isPositiveNaN_distanceSquared {p q : Point} (hp : p.HasCoordinates)
    (hq : q.HasCoordinates) : ¬(p.distanceSquared q).IsPositiveNaN := by
  have hnumber : ∀ {x : Number.Single}, x.isNaN = false → ¬x.IsPositiveNaN :=
    fun hx h => Bool.false_ne_true (hx.symm.trans h.1)
  have hdx := Number.not_isPositiveNaN_binary (· - ·) (hnumber hp.1) (hnumber hq.1)
  have hdy := Number.not_isPositiveNaN_binary (· - ·) (hnumber hp.2) (hnumber hq.2)
  exact Number.not_isPositiveNaN_binary (· + ·)
    (Number.not_isPositiveNaN_binary (· * ·) hdx hdx)
    (Number.not_isPositiveNaN_binary (· * ·) hdy hdy)

/-- **A distance that is no number comes before all others.** It arises where a candidate shares an
infinite coordinate with the target, and such a candidate is taken for the nearest. -/
theorem Candidate.notBehind_of_isNaN {target : Point} {a b : Candidate}
    (ha : a.2.HasCoordinates) (htarget : target.HasCoordinates)
    (hnan : (a.2.distanceSquared target).isNaN = true)
    (hnumber : (b.2.distanceSquared target).isNaN = false) : a.NotBehind target b := by
  have hpositive := Point.not_isPositiveNaN_distanceSquared ha htarget
  refine Or.inl (.negativeNaN ⟨hnan, ?_⟩ fun h => ?_)
  · rw [← Bool.not_eq_false]
    exact fun h => hpositive ⟨hnan, h⟩
  · exact Bool.false_ne_true (hnumber.symm.trans h.1)

example : nearestTo ⟨.infinity false, 0⟩ [(⟨1⟩, ⟨.infinity false, 0⟩), (⟨2⟩, ⟨0, 0⟩)] = some ⟨1⟩ := by
  decide

end Skirmish
