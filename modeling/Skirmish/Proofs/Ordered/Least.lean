import Skirmish.Map.Nearest

/-!
# The least element does not depend on the order of the list

`least` takes the first of several elements that tie, so in general its answer depends on how the
list is ordered. It does not where ties are harmless: `least_map_eq_of_perm` says that two listings
of the same elements give the same answer up to a function that ties do not tell apart.

* `Ranking` collects what is asked of a comparison: it is one-sided, and not preceding chains;
* `not_precedes_of_least` is minimality, and `exists_append_of_least` says which of several elements
  that tie is taken;
* `nearestTo_eq_of_perm` and `least_key_eq_of_perm` are the two cases in use: candidates by distance
  and tag, and anything by a key that tells its elements apart;
* `exists_ascending` lists elements by ascending key, and `least_eq_head?` finds the least key at the
  head of such a list.
-/

namespace Skirmish

/-- A comparison that ranks: no two elements precede each other, and an element that is not preceded
by a second one, which is not preceded by a third one, is not preceded by the third. -/
structure Ranking {α : Type} (precedes : α → α → Bool) : Prop where
  asymm : ∀ {a b}, precedes a b = true → precedes b a = false
  chain : ∀ {a b c}, precedes a b = false → precedes b c = false → precedes a c = false

namespace Ranking

variable {α : Type} {precedes : α → α → Bool}

/-- Nothing precedes itself. -/
theorem irrefl (ranking : Ranking precedes) (a : α) : precedes a a = false := by
  by_cases h : precedes a a = true
  · exact ranking.asymm h
  · simpa using h

/-- Keys are ranked by their order. -/
theorem key {κ : Type} [Key κ] : Ranking (fun a b : κ => Key.precedes a b) where
  asymm := Key.asymm
  chain := by
    intro a b c hab hbc
    -- If `a` precedes `c` then `b` lies neither at `a`, nor before it, nor behind it.
    cases hac : Key.precedes a c with
    | false => rfl
    | true =>
      cases hba : Key.precedes b a with
      | true =>
        rw [Key.trans hba hac] at hbc
        contradiction
      | false =>
        obtain rfl := Key.connex hab hba
        rw [hac] at hbc
        contradiction

/-- Ranking by a number. -/
theorem measure (f : α → Int) : Ranking (fun a b => decide (f a < f b)) where
  asymm h := decide_eq_false (Int.not_lt.mpr (Int.le_of_lt (of_decide_eq_true h)))
  chain h₁ h₂ := by
    have h₁ := of_decide_eq_false h₁
    have h₂ := of_decide_eq_false h₂
    exact decide_eq_false (by omega)

/-- Ranking by a measure. -/
theorem comap {β : Type} {measured : β → β → Bool} (ranking : Ranking measured) (f : α → β) :
    Ranking (fun a b => measured (f a) (f b)) where
  asymm h := ranking.asymm h
  chain h₁ h₂ := ranking.chain h₁ h₂

/-- Candidates are ranked by distance and then by tag. -/
theorem candidate (target : Point) : Ranking (Candidate.precedes target) where
  asymm := by
    intro a b h
    simp only [Candidate.precedes, Bool.or_eq_true, Bool.and_eq_true, decide_eq_true_eq] at h
    simp only [Candidate.precedes, Bool.or_eq_false_iff, Bool.and_eq_false_iff,
      decide_eq_false_iff_not]
    rcases h with h | ⟨h, htag⟩
    · exact ⟨by omega, Or.inl (by omega)⟩
    · exact ⟨by omega, Or.inr (Key.asymm htag)⟩
  chain := by
    intro a b c hab hbc
    simp only [Candidate.precedes, Bool.or_eq_false_iff, Bool.and_eq_false_iff,
      decide_eq_false_iff_not] at hab hbc ⊢
    obtain ⟨hab, htag⟩ := hab
    obtain ⟨hbc, htag'⟩ := hbc
    refine ⟨by omega, ?_⟩
    rcases htag with htag | htag
    · exact Or.inl (by omega)
    · rcases htag' with htag' | htag'
      · exact Or.inl (by omega)
      · exact Or.inr (key.chain htag htag')

end Ranking

/-! ## Minimality -/

section

variable {α : Type} {precedes : α → α → Bool}

/-- Nothing in the list precedes its least element. -/
theorem not_precedes_of_least (ranking : Ranking precedes) {l : List α} {m : α}
    (h : least precedes l = some m) : ∀ a ∈ l, precedes a m = false := by
  induction l generalizing m with
  | nil => simp [least] at h
  | cons b rest ih =>
    unfold least at h
    split at h
    · rename_i hrest
      rw [least_eq_none_iff] at hrest
      subst hrest
      obtain rfl := Option.some.inj h
      intro a ha
      rw [List.mem_singleton.mp ha]
      exact ranking.irrefl b
    · rename_i c hc
      -- The least is the head or the least of the rest, and the ranking is transitive either way.
      have hmin := ih hc
      split at h
      · rename_i hcb
        obtain rfl := Option.some.inj h
        intro a ha
        rcases List.mem_cons.mp ha with rfl | ha
        · exact ranking.asymm hcb
        · exact hmin a ha
      · rename_i hcb
        obtain rfl := Option.some.inj h
        intro a ha
        rcases List.mem_cons.mp ha with rfl | ha
        · exact ranking.irrefl a
        · exact ranking.chain (hmin a ha) (by simpa using hcb)

/-- The least element precedes all elements in front of it: of those that tie it is the first. -/
theorem exists_append_of_least {l : List α} {m : α} (h : least precedes l = some m) :
    ∃ front back, l = front ++ m :: back ∧ ∀ a ∈ front, precedes m a = true := by
  induction l generalizing m with
  | nil => simp [least] at h
  | cons b rest ih =>
    unfold least at h
    split at h
    · obtain rfl := Option.some.inj h
      exact ⟨[], rest, rfl, by simp⟩
    · rename_i c hc
      split at h
      · rename_i hcb
        obtain rfl := Option.some.inj h
        obtain ⟨front, back, rfl, hfront⟩ := ih hc
        refine ⟨b :: front, back, rfl, ?_⟩
        intro a ha
        rcases List.mem_cons.mp ha with rfl | ha
        · exact hcb
        · exact hfront a ha
      · -- A head that is not preceded stays the least, and nothing stands before it.
        obtain rfl := Option.some.inj h
        exact ⟨[], rest, rfl, by simp⟩

/-! ## Listings of the same elements -/

/-- Two listings of the same elements have the same least element, as far as `f` can tell, if `f`
does not tell apart elements of which neither precedes the other. -/
theorem least_map_eq_of_perm {β : Type} (ranking : Ranking precedes) {l m : List α} (f : α → β)
    (tie : ∀ a ∈ l, ∀ b ∈ l, precedes a b = false → precedes b a = false → f a = f b)
    (h : l.Perm m) : (least precedes l).map f = (least precedes m).map f := by
  cases hl : least precedes l with
  | none =>
    rw [least_eq_none_iff] at hl
    subst hl
    rw [h.nil_eq.symm]
    rfl
  | some a =>
    cases hm : least precedes m with
    | none =>
      rw [least_eq_none_iff] at hm
      subst hm
      rw [h.eq_nil] at hl
      simp [least] at hl
    | some b =>
      have ha : a ∈ l := mem_of_least hl
      have hb : b ∈ m := mem_of_least hm
      -- Neither of the two precedes the other, which makes them a tie.
      have hab := not_precedes_of_least ranking hm a (h.mem_iff.mp ha)
      have hba := not_precedes_of_least ranking hl b (h.mem_iff.mpr hb)
      simp only [Option.map_some]
      rw [tie a ha b (h.mem_iff.mpr hb) hab hba]

/-- The least element by a key is the same for all listings, if the key tells the elements of the
list apart. -/
theorem least_key_eq_of_perm {κ : Type} [Key κ] {l m : List α} (key : α → κ)
    (apart : ∀ a ∈ l, ∀ b ∈ l, key a = key b → a = b) (h : l.Perm m) :
    least (fun a b => Key.precedes (key a) (key b)) l =
      least (fun a b => Key.precedes (key a) (key b)) m := by
  have := least_map_eq_of_perm (Ranking.key.comap key) id
    (fun a ha b hb hab hba => apart a ha b hb (Key.connex hab hba)) h
  simpa using this

end

/-- Candidates of which neither precedes the other have the same tag. -/
theorem Candidate.tag_eq_of_tie {target : Point} {a b : Candidate}
    (hab : Candidate.precedes target a b = false) (hba : Candidate.precedes target b a = false) :
    a.1 = b.1 := by
  simp only [Candidate.precedes, Bool.or_eq_false_iff, Bool.and_eq_false_iff,
    decide_eq_false_iff_not] at hab hba
  -- Neither is nearer, so both are equally near and the tags decide.
  have hnear : Number.rank (a.2.distanceSquared target) = Number.rank (b.2.distanceSquared target) := by
    omega
  refine Key.connex ?_ ?_
  · rcases hab.2 with h | h
    · exact absurd hnear h
    · exact h
  · rcases hba.2 with h | h
    · exact absurd hnear.symm h
    · exact h

/-- **The nearest candidate is the same for all listings of the candidates.** -/
theorem nearestTo_eq_of_perm (target : Point) {l m : List Candidate} (h : l.Perm m) :
    nearestTo target l = nearestTo target m :=
  least_map_eq_of_perm (Ranking.candidate target) (·.1)
    (fun _ _ _ _ hab hba => Candidate.tag_eq_of_tie hab hba) h

/-! ## Ascending lists -/

section

variable {κ : Type} [Key κ]

/-- Elements that a key tells apart can be listed by ascending key. -/
theorem exists_ascending {α : Type} (key : α → κ) {l : List α} (distinct : (l.map key).Nodup) :
    ∃ ascending : List α, ascending.Perm l ∧
      (ascending.map key).Pairwise (fun a b => Key.precedes a b = true) := by
  have ranking : Ranking (fun a b => Key.precedes (key a) (key b)) := Ranking.key.comap key
  -- Sorting asks for a test that ties pass, so it is made from the comparison the other way round.
  let notAfter (a b : α) : Bool := !Key.precedes (key b) (key a)
  have hperm := List.mergeSort_perm l notAfter
  have hsorted : (l.mergeSort notAfter).Pairwise fun a b => notAfter a b = true := by
    refine List.pairwise_mergeSort (fun a b c hab hbc => ?_) (fun a b => ?_) l
    · simp only [notAfter, Bool.not_eq_true'] at hab hbc ⊢
      exact ranking.chain hbc hab
    · simp only [notAfter, Bool.or_eq_true, Bool.not_eq_true']
      cases hba : Key.precedes (key b) (key a) with
      | false => exact Or.inl rfl
      | true => exact Or.inr (ranking.asymm hba)
  have hapart : (l.mergeSort notAfter).Pairwise fun a b => key a ≠ key b :=
    List.pairwise_map.mp ((hperm.map key).nodup_iff.mpr distinct)
  refine ⟨l.mergeSort notAfter, hperm, List.pairwise_map.mpr ?_⟩
  refine (hapart.and hsorted).imp fun {a b} ⟨hne, hnot⟩ => ?_
  simp only [notAfter, Bool.not_eq_true'] at hnot
  cases hab : Key.precedes (key a) (key b) with
  | true => rfl
  | false => exact absurd (Key.connex hab hnot) hne

/-- The least of some keys is the head of any ascending list of the same keys. -/
theorem least_eq_head? {keys ascending : List κ}
    (sorted : ascending.Pairwise (fun a b => Key.precedes a b = true))
    (same : ∀ key, key ∈ ascending ↔ key ∈ keys) :
    least (fun a b => Key.precedes a b) keys = ascending.head? := by
  cases hleast : least (fun a b => Key.precedes a b) keys with
  | none =>
    rw [least_eq_none_iff] at hleast
    subst hleast
    rw [List.eq_nil_iff_forall_not_mem.mpr fun key h => List.not_mem_nil ((same key).mp h),
      List.head?_nil]
  | some key =>
    have hkey := (same key).mpr (mem_of_least hleast)
    cases ascending with
    | nil => cases hkey
    | cons first rest =>
      have hnot := not_precedes_of_least Ranking.key hleast first
        ((same first).mp List.mem_cons_self)
      -- A key further back would be preceded by the first one.
      rcases List.mem_cons.mp hkey with rfl | hrest
      · rfl
      · rw [(List.pairwise_cons.mp sorted).1 key hrest] at hnot
        cases hnot

end

end Skirmish
