import Mathlib.Logic.Basic
import Skirmish.Map.Layout
import Skirmish.Proofs.Ordered.Least

/-!
# Which base is meant

Two questions are asked of a layout: which base is nearest to a position, and which active base is
the newest. Both are answered by a search, and the lemmas here say what the searches find:
`Layout.nearestBase?_eq_some_iff` and `Layout.newestActive_eq_some_iff`.

A base is taken by marking it, and nothing else of a layout ever changes. `Layout.unmarked` is what
stays, and `Layout.Took` says what comes of taking some bases.
-/

namespace Skirmish

/-- How far the townhall of a base is from a position, in the total order of numbers. -/
def Base.remoteness (base : Base) (position : Point) : Int :=
  Number.rank (base.townhall.distanceSquared position)

/-- The base without its mark. -/
def Base.unmarked (base : Base) : Base := { base with active := false }

namespace Layout

variable {layout before middle after : Layout}

/-- The layout without its marks. -/
def unmarked (layout : Layout) : Layout := { layout with bases := layout.bases.map (·.unmarked) }

/-- Whether there is a base with an index, and it is active. -/
def IsActive (layout : Layout) (index : Nat) : Prop :=
  ∃ base, layout.bases[index]? = some base ∧ base.active = true

/-- Whether the base with an index is nearest to a position: none is nearer, and none with a lower
index is as near. -/
def IsNearest (layout : Layout) (position : Point) (index : Nat) : Prop :=
  ∃ base, layout.bases[index]? = some base ∧
    ∀ (other : Nat) (rival : Base), layout.bases[other]? = some rival →
      base.remoteness position ≤ rival.remoteness position ∧
        (other < index → base.remoteness position < rival.remoteness position)

/-! ## Listing with indices -/

/-- The bases stand in the order of their numbers. -/
theorem sorted_zipIdx (bases : List Base) : bases.zipIdx.Pairwise (fun a b => a.2 < b.2) := by
  refine List.pairwise_map.mp ?_
  rw [List.zipIdx_map_snd]
  exact List.pairwise_lt_range'

/-- In a list by ascending index, what has a lower index stands in front. -/
theorem mem_front_of_lt {front back : List (Base × Nat)} {entry lower : Base × Nat}
    (sorted : (front ++ entry :: back).Pairwise (fun a b => a.2 < b.2))
    (hmem : lower ∈ front ++ entry :: back) (hlt : lower.2 < entry.2) : lower ∈ front := by
  rcases List.mem_append.mp hmem with hfront | hrest
  · exact hfront
  · rcases List.mem_cons.mp hrest with rfl | hback
    · exact absurd hlt (Nat.lt_irrefl _)
    · have hlater := (List.pairwise_cons.mp (List.pairwise_append.mp sorted).2.1).1 lower hback
      exact absurd hlt (Nat.lt_asymm hlater)

/-! ## The nearest base -/

/-- There is one nearest base: of two at the same distance it is the one with the lower number. -/
theorem IsNearest.unique {position : Point} {i j : Nat} (hi : layout.IsNearest position i)
    (hj : layout.IsNearest position j) : i = j := by
  obtain ⟨a, ha, hmin⟩ := hi
  obtain ⟨b, hb, hmin'⟩ := hj
  have hab := hmin j b hb
  have hba := hmin' i a ha
  rcases Nat.lt_trichotomy i j with h | h | h
  · have := hba.2 h
    omega
  · exact h
  · have := hab.2 h
    omega

/-- The search for the nearest base finds the nearest one. -/
theorem isNearest_of_nearestBase? {position : Point} {index : Nat}
    (h : layout.nearestBase? position = some index) : layout.IsNearest position index := by
  obtain ⟨⟨base, i⟩, hfound, rfl⟩ := Option.map_eq_some_iff.mp h
  have hleast : least (fun a b : Base × Nat =>
      decide (a.1.remoteness position < b.1.remoteness position)) layout.bases.zipIdx =
        some (base, i) := hfound
  refine ⟨base, List.mem_zipIdx_iff_getElem?.mp (mem_of_least hleast), ?_⟩
  intro other rival hrival
  have hmem : (rival, other) ∈ layout.bases.zipIdx := List.mem_zipIdx_iff_getElem?.mpr hrival
  constructor
  · have ranking := Ranking.measure fun entry : Base × Nat => entry.1.remoteness position
    have hmin := not_precedes_of_least ranking hleast _ hmem
    rw [decide_eq_false_iff_not] at hmin
    exact Int.not_lt.mp hmin
  · -- A base with a lower number stands before the found one, which is the first of the least.
    intro hlower
    obtain ⟨front, back, hsplit, hfront⟩ := exists_append_of_least hleast
    have hsorted := sorted_zipIdx layout.bases
    rw [hsplit] at hmem hsorted
    have hnearer := hfront _ (mem_front_of_lt hsorted hmem hlower)
    rw [decide_eq_true_iff] at hnearer
    exact hnearer

/-- **The base that is found is the nearest one**, and the first of several that are equally near. -/
theorem nearestBase?_eq_some_iff {position : Point} {index : Nat} :
    layout.nearestBase? position = some index ↔ layout.IsNearest position index := by
  refine ⟨isNearest_of_nearestBase?, fun hnearest => ?_⟩
  cases hfound : layout.nearestBase? position with
  | some other => rw [(isNearest_of_nearestBase? hfound).unique hnearest]
  | none =>
    obtain ⟨base, hbase, -⟩ := hnearest
    have hmem : (base, index) ∈ layout.bases.zipIdx := List.mem_zipIdx_iff_getElem?.mpr hbase
    rw [least_eq_none_iff.mp (Option.map_eq_none_iff.mp hfound)] at hmem
    cases hmem

/-! ## The newest active base -/

/-- The active bases with their numbers are the bases of the layout that are active. -/
theorem mem_filter_active {base : Base} {index : Nat} :
    (base, index) ∈ layout.bases.zipIdx.filter (·.1.active) ↔
      layout.bases[index]? = some base ∧ base.active = true := by
  rw [List.mem_filter, List.mem_zipIdx_iff_getElem?]

/-- Whether a base is the active one with the highest index. -/
def IsNewest (layout : Layout) (base : Base) (index : Nat) : Prop :=
  layout.bases[index]? = some base ∧ base.active = true ∧
    ∀ other, layout.IsActive other → other ≤ index

/-- The search for the newest base finds the newest active one. -/
theorem isNewest_of_newestActive {base : Base} {index : Nat}
    (h : layout.newestActive = some (base, index)) : layout.IsNewest base index := by
  obtain ⟨front, hsplit⟩ := List.getLast?_eq_some_iff.mp h
  have hmem : (base, index) ∈ layout.bases.zipIdx.filter (·.1.active) := by
    rw [hsplit]
    exact List.mem_append_right _ List.mem_cons_self
  obtain ⟨hbase, hactive⟩ := mem_filter_active.mp hmem
  refine ⟨hbase, hactive, ?_⟩
  rintro other ⟨rival, hrival, hrivalActive⟩
  have hrest := mem_filter_active.mpr ⟨hrival, hrivalActive⟩
  have hsorted := (sorted_zipIdx layout.bases).filter (·.1.active)
  rw [hsplit] at hrest hsorted
  rcases List.mem_append.mp hrest with hfront | hlast
  · have hlower := (List.pairwise_append.mp hsorted).2.2 _ hfront _ List.mem_cons_self
    exact Nat.le_of_lt hlower
  · obtain ⟨-, rfl⟩ := Prod.mk.inj (List.mem_singleton.mp hlast)
    exact Nat.le_refl _

/-- If any base is active there is a newest one, and it is not below that one. -/
theorem IsActive.exists_newest {index : Nat} (h : layout.IsActive index) :
    ∃ base newest, layout.newestActive = some (base, newest) ∧ index ≤ newest := by
  cases hfound : layout.newestActive with
  | some found => exact ⟨found.1, found.2, rfl, (isNewest_of_newestActive hfound).2.2 index h⟩
  | none =>
    obtain ⟨base, hbase, hactive⟩ := h
    have hmem := mem_filter_active.mpr ⟨hbase, hactive⟩
    rw [List.getLast?_eq_none_iff.mp hfound] at hmem
    cases hmem

/-- **The newest active base is the active one with the highest index.** -/
theorem newestActive_eq_some_iff {base : Base} {index : Nat} :
    layout.newestActive = some (base, index) ↔ layout.IsNewest base index := by
  refine ⟨isNewest_of_newestActive, ?_⟩
  rintro ⟨hbase, hactive, hhighest⟩
  obtain ⟨found, newest, hfound, hle⟩ := IsActive.exists_newest ⟨base, hbase, hactive⟩
  obtain ⟨hother, hotherActive, -⟩ := isNewest_of_newestActive hfound
  obtain rfl : newest = index := Nat.le_antisymm (hhighest _ ⟨_, hother, hotherActive⟩) hle
  rw [hfound, Option.some.inj (hother.symm.trans hbase)]

/-! ## Taking bases -/

/-- What comes of taking some bases: they are active from then on, and nothing else changes. -/
structure Took (before : Layout) (taken : Nat → Prop) (after : Layout) : Prop where
  unmarked : after.unmarked = before.unmarked
  isActive_iff : ∀ index, after.IsActive index ↔
    before.IsActive index ∨ taken index ∧ index < before.bases.length

theorem Took.none (layout : Layout) : layout.Took (fun _ => False) layout :=
  ⟨rfl, fun index => by simp⟩

/-- Marking bases does not change how many there are. -/
theorem length_of_unmarked_eq (h : after.unmarked = before.unmarked) :
    after.bases.length = before.bases.length := by
  have hbases := congrArg (fun layout => layout.bases.length) h
  simpa [unmarked] using hbases

/-- Activating a base only changes its mark. -/
theorem unmarked_activate (layout : Layout) (index : Nat) :
    (layout.activate index).unmarked = layout.unmarked := by
  have hbases : (layout.bases.modify index fun base => { base with active := true }).map
      (·.unmarked) = layout.bases.map (·.unmarked) := by
    ext i : 1
    simp only [List.getElem?_map, List.getElem?_modify]
    split <;> cases layout.bases[i]? <;> rfl
  simp only [unmarked, activate, hbases]

/-- Activating a base takes that base and no other. -/
theorem Took.activate (layout : Layout) (index : Nat) :
    layout.Took (· = index) (layout.activate index) := by
  refine ⟨layout.unmarked_activate index, fun other => ?_⟩
  simp only [IsActive, Layout.activate, List.getElem?_modify]
  by_cases hother : index = other
  · subst hother
    cases hbase : layout.bases[index]? with
    | none => simp [List.getElem?_eq_none_iff.mp hbase]
    | some base => simp [(List.getElem?_eq_some_iff.mp hbase).1]
  · simp [hother, Ne.symm hother]

/-- What is taken in two turns is what is taken in either. -/
theorem Took.trans {first second : Nat → Prop} (h₁ : before.Took first middle)
    (h₂ : middle.Took second after) :
    before.Took (fun index => first index ∨ second index) after := by
  refine ⟨h₂.unmarked.trans h₁.unmarked, fun index => ?_⟩
  rw [h₂.isActive_iff, h₁.isActive_iff, length_of_unmarked_eq h₁.unmarked, or_and_right, or_assoc]

/-- Which base is nearest to a position does not depend on the marks. -/
theorem isNearest_unmarked (layout : Layout) : layout.unmarked.IsNearest = layout.IsNearest := by
  have hremote : ∀ base : Base, base.unmarked.remoteness = base.remoteness := fun _ => rfl
  funext position index
  simp only [IsNearest, unmarked, List.getElem?_map, Option.map_eq_some_iff, forall_exists_index,
    and_imp, forall_apply_eq_imp_iff₂, exists_exists_and_eq_and, hremote]

end Layout

end Skirmish
