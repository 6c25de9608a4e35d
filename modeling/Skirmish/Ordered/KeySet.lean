import Skirmish.Ordered.Key

/-!
# Sets of keys

A `KeySet` is the ascending list of its members. Because the list is sorted, two sets with the same
members are equal (`KeySet.ext`), so a set says nothing about the history that built it.

* `mem_insert` and `mem_erase` describe the two ways to change a set;
* `contains`, `isEmpty` and `toList` are the ways to look at one.
-/

namespace Skirmish

/-- A finite set of keys, kept as the ascending list of its members. -/
structure KeySet (κ : Type) [Key κ] where
  /-- The members, ascending. -/
  toList : List κ
  sorted : toList.Pairwise (fun a b => Key.precedes a b = true)

namespace KeySet

variable {κ : Type} [Key κ]

/-! ## Sorted lists -/

/-- Put a key at its place in an ascending list, unless it is there already. -/
def place (k : κ) : List κ → List κ
  | [] => [k]
  | a :: rest =>
    if Key.precedes k a then k :: a :: rest
    else if Key.precedes a k then a :: place k rest
    else a :: rest

/-- Placing a key adds it and no other. -/
theorem mem_place {k x : κ} {l : List κ} : x ∈ place k l ↔ x = k ∨ x ∈ l := by
  induction l with
  | nil => simp [place]
  | cons a rest ih =>
    unfold place
    split
    · simp
    · split
      · simp only [List.mem_cons, ih]
        constructor
        · rintro (h | h | h) <;> simp [h]
        · rintro (h | h | h) <;> simp [h]
      · rename_i h₁ h₂
        have : k = a := Key.connex (by simpa using h₁) (by simpa using h₂)
        subst this
        simp

/-- Placing a key keeps the list ascending. -/
theorem place_sorted {k : κ} {l : List κ}
    (h : l.Pairwise (fun a b => Key.precedes a b = true)) :
    (place k l).Pairwise (fun a b => Key.precedes a b = true) := by
  induction l with
  | nil => simp [place]
  | cons a rest ih =>
    have ⟨ha, hrest⟩ := List.pairwise_cons.1 h
    unfold place
    split
    · rename_i hk
      refine List.pairwise_cons.2 ⟨fun x hx => ?_, h⟩
      rcases List.mem_cons.1 hx with rfl | hx
      · exact hk
      · exact Key.trans hk (ha x hx)
    · split
      · rename_i hk
        refine List.pairwise_cons.2 ⟨fun x hx => ?_, ih hrest⟩
        rcases mem_place.1 hx with rfl | hx
        · exact hk
        · exact ha x hx
      · exact h

/-- Ascending lists with the same members are equal. -/
theorem eq_of_mem_iff {l m : List κ}
    (hl : l.Pairwise (fun a b => Key.precedes a b = true))
    (hm : m.Pairwise (fun a b => Key.precedes a b = true))
    (h : ∀ x, x ∈ l ↔ x ∈ m) : l = m := by
  induction l generalizing m with
  | nil =>
    cases m with
    | nil => rfl
    | cons b m => exact absurd ((h b).2 (by simp)) (by simp)
  | cons a l ih =>
    cases m with
    | nil => exact absurd ((h a).1 (by simp)) (by simp)
    | cons b m =>
      have ⟨ha, hl'⟩ := List.pairwise_cons.1 hl
      have ⟨hb, hm'⟩ := List.pairwise_cons.1 hm
      have hab : a = b := by
        rcases List.mem_cons.1 ((h a).1 (by simp)) with hab | hab
        · exact hab
        · rcases List.mem_cons.1 ((h b).2 (by simp)) with hba | hba
          · exact hba.symm
          · have := Key.trans (ha b hba) (hb a hab)
            simp [Key.irrefl] at this
      subst hab
      congr 1
      refine ih hl' hm' fun x => ?_
      constructor
      · intro hx
        rcases List.mem_cons.1 ((h x).1 (List.mem_cons_of_mem _ hx)) with rfl | hx'
        · exact absurd rfl (Key.ne_of_precedes (ha x hx))
        · exact hx'
      · intro hx
        rcases List.mem_cons.1 ((h x).2 (List.mem_cons_of_mem _ hx)) with rfl | hx'
        · exact absurd rfl (Key.ne_of_precedes (hb x hx))
        · exact hx'

/-! ## Sets -/

/-- The set without members. -/
def empty : KeySet κ := ⟨[], List.Pairwise.nil⟩

instance : EmptyCollection (KeySet κ) := ⟨empty⟩

instance : Inhabited (KeySet κ) := ⟨empty⟩

instance : Membership κ (KeySet κ) := ⟨fun s k => k ∈ s.toList⟩

variable [DecidableEq κ]

instance (k : κ) (s : KeySet κ) : Decidable (k ∈ s) :=
  inferInstanceAs (Decidable (k ∈ s.toList))

instance : DecidableEq (KeySet κ) := fun s t =>
  if h : s.toList = t.toList then
    isTrue (by cases s; cases t; simp_all)
  else
    isFalse (by rintro rfl; exact h rfl)

/-- Whether the key is a member. -/
def contains (s : KeySet κ) (k : κ) : Bool := decide (k ∈ s)

/-- Whether the set has no members. -/
def isEmpty (s : KeySet κ) : Bool := s.toList.isEmpty

/-- The set with one more member. -/
def insert (s : KeySet κ) (k : κ) : KeySet κ := ⟨place k s.toList, place_sorted s.sorted⟩

/-- The set without one key. -/
def erase (s : KeySet κ) (k : κ) : KeySet κ :=
  ⟨s.toList.filter (fun a => decide (a ≠ k)), s.sorted.filter _⟩

/-- The set of the members of a list. -/
def ofList (l : List κ) : KeySet κ := l.foldl insert empty

/-- Whether every member of the first set is one of the second. -/
def isSubset (s t : KeySet κ) : Bool := s.toList.all t.contains

/-- Whether the two sets have a member in common. -/
def meets (s t : KeySet κ) : Bool := s.toList.any t.contains

variable {s t : KeySet κ} {k x : κ}

omit [DecidableEq κ] in
theorem mem_toList : x ∈ s.toList ↔ x ∈ s := Iff.rfl

omit [DecidableEq κ] in
/-- A set is known by its members. -/
@[ext]
theorem ext (h : ∀ x, x ∈ s ↔ x ∈ t) : s = t := by
  have := eq_of_mem_iff s.sorted t.sorted h
  cases s
  cases t
  simp_all

omit [DecidableEq κ] in
@[simp]
theorem not_mem_empty : ¬ x ∈ (empty : KeySet κ) := List.not_mem_nil

omit [DecidableEq κ] in
/-- Inserting a key adds it and no other. -/
@[simp]
theorem mem_insert : x ∈ s.insert k ↔ x = k ∨ x ∈ s := mem_place

/-- Erasing a key removes it and no other. -/
@[simp]
theorem mem_erase : x ∈ s.erase k ↔ x ∈ s ∧ x ≠ k := by
  rw [← mem_toList, ← mem_toList]
  simp [erase]

@[simp]
theorem contains_eq_true : s.contains k = true ↔ k ∈ s := by simp [contains]

end KeySet

end Skirmish
