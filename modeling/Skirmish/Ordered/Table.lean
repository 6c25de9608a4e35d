import Skirmish.Ordered.KeySet

/-!
# Tables

A `Table` assigns values to keys and lists its entries in ascending order of key. Two tables that
answer every lookup alike are equal (`Table.ext`), so, like a `KeySet`, a table remembers nothing
of how it was filled.

* `insert` sets the value of a key, whether or not it had one;
* `modify` changes the value of a key that has one and otherwise does nothing;
* `erase` takes a key away;
* `get?` looks a key up, and the `get?_…` lemmas say what each change does to every lookup.
-/

namespace Skirmish

/-- An assignment of values to finitely many keys, listed by ascending key. -/
structure Table (κ : Type) (α : Type) [Key κ] where
  /-- The entries, by ascending key. -/
  entries : List (κ × α)
  sorted : entries.Pairwise (fun e f => Key.precedes e.1 f.1 = true)

namespace Table

variable {κ α : Type} [Key κ]

/-! ## Sorted entries -/

/-- Put an entry at its place in an ascending list, instead of an entry with the same key. -/
def place (k : κ) (v : α) : List (κ × α) → List (κ × α)
  | [] => [(k, v)]
  | e :: rest =>
    if Key.precedes k e.1 then (k, v) :: e :: rest
    else if Key.precedes e.1 k then e :: place k v rest
    else (k, v) :: rest

/-- The entries after placing a key are the new one and old ones. -/
theorem key_mem_of_mem_place {k : κ} {v : α} {e : κ × α} {l : List (κ × α)}
    (h : e ∈ place k v l) : e.1 = k ∨ e ∈ l := by
  induction l with
  | nil => simp only [place, List.mem_singleton] at h; exact .inl (by rw [h])
  | cons a rest ih =>
    unfold place at h
    split at h
    · rcases List.mem_cons.1 h with h | h
      · exact .inl (by rw [h])
      · exact .inr h
    · split at h
      · rcases List.mem_cons.1 h with h | h
        · exact .inr (by simp [h])
        · exact (ih h).imp id (List.mem_cons_of_mem _)
      · rcases List.mem_cons.1 h with h | h
        · exact .inl (by rw [h])
        · exact .inr (List.mem_cons_of_mem _ h)

/-- Placing an entry keeps the keys ascending. -/
theorem place_sorted {k : κ} {v : α} {l : List (κ × α)}
    (h : l.Pairwise (fun e f => Key.precedes e.1 f.1 = true)) :
    (place k v l).Pairwise (fun e f => Key.precedes e.1 f.1 = true) := by
  induction l with
  | nil => simp [place]
  | cons a rest ih =>
    have ⟨ha, hrest⟩ := List.pairwise_cons.1 h
    unfold place
    split
    · rename_i hk
      refine List.pairwise_cons.2 ⟨fun e he => ?_, h⟩
      rcases List.mem_cons.1 he with rfl | he
      · exact hk
      · exact Key.trans hk (ha e he)
    · split
      · rename_i hk
        refine List.pairwise_cons.2 ⟨fun e he => ?_, ih hrest⟩
        rcases key_mem_of_mem_place he with he | he
        · rw [he]; exact hk
        · exact ha e he
      · rename_i h₁ h₂
        have : k = a.1 := Key.connex (by simpa using h₁) (by simpa using h₂)
        subst this
        exact List.pairwise_cons.2 ⟨ha, hrest⟩

/-! ## Tables -/

/-- The table without entries. -/
def empty : Table κ α := ⟨[], List.Pairwise.nil⟩

instance : EmptyCollection (Table κ α) := ⟨empty⟩

instance : Inhabited (Table κ α) := ⟨empty⟩

/-- The keys, ascending. -/
def keys (t : Table κ α) : List κ := t.entries.map (·.1)

/-- The values, by ascending key. -/
def values (t : Table κ α) : List α := t.entries.map (·.2)

/-- The number of entries. -/
def size (t : Table κ α) : Nat := t.entries.length

/-- Set the value of a key. -/
def insert (t : Table κ α) (k : κ) (v : α) : Table κ α := ⟨place k v t.entries, place_sorted t.sorted⟩

/-- Change every value, which may depend on its key. -/
def map {β : Type} (f : κ → α → β) (t : Table κ α) : Table κ β :=
  ⟨t.entries.map fun e => (e.1, f e.1 e.2), List.pairwise_map.2 t.sorted⟩

variable [DecidableEq κ]

/-- The value of a key, if it has one. -/
def get? (t : Table κ α) (k : κ) : Option α := t.entries.lookup k

/-- Whether a key has a value. -/
def contains (t : Table κ α) (k : κ) : Bool := (t.get? k).isSome

/-- Change the value of a key that has one. -/
def modify (t : Table κ α) (k : κ) (f : α → α) : Table κ α :=
  t.map fun k' v => if k' = k then f v else v

/-- Take a key away. -/
def erase (t : Table κ α) (k : κ) : Table κ α :=
  ⟨t.entries.filter fun e => decide (e.1 ≠ k), t.sorted.filter _⟩

/-! ## Lookups after a change -/

omit [Key κ] in
private theorem lookup_cons_ite {e : κ × α} {x : κ} {l : List (κ × α)} :
    (e :: l).lookup x = if x = e.1 then some e.2 else l.lookup x := by
  obtain ⟨k, v⟩ := e
  by_cases h : x = k
  · simp [h]
  · have : (x == k) = false := by simpa using h
    simp [List.lookup_cons, this, h]

private theorem lookup_place {k x : κ} {v : α} {l : List (κ × α)} :
    (place k v l).lookup x = if x = k then some v else l.lookup x := by
  induction l with
  | nil => simp [place, lookup_cons_ite]
  | cons a rest ih =>
    unfold place
    split
    · simp [lookup_cons_ite]
    · split
      · rename_i hk
        rw [lookup_cons_ite, ih, lookup_cons_ite]
        by_cases hx : x = a.1
        · have : x ≠ k := by rw [hx]; exact Key.ne_of_precedes hk
          rw [if_pos hx, if_neg this, if_pos hx]
        · simp [hx]
      · rename_i h₁ h₂
        have hka : k = a.1 := Key.connex (by simpa using h₁) (by simpa using h₂)
        rw [lookup_cons_ite, lookup_cons_ite, ← hka]
        by_cases hx : x = k <;> simp [hx]

omit [Key κ] in
private theorem lookup_map {β : Type} {f : κ → α → β} {x : κ} {l : List (κ × α)} :
    (l.map fun e => (e.1, f e.1 e.2)).lookup x = (l.lookup x).map (f x) := by
  induction l with
  | nil => rfl
  | cons a rest ih =>
    rw [List.map_cons, lookup_cons_ite, lookup_cons_ite, ih]
    by_cases h : x = a.1 <;> simp [h]

omit [Key κ] in
private theorem lookup_filter {x k : κ} {l : List (κ × α)} :
    (l.filter fun e => decide (e.1 ≠ k)).lookup x = if x = k then none else l.lookup x := by
  induction l with
  | nil => simp
  | cons a rest ih =>
    by_cases ha : a.1 = k
    · rw [List.filter_cons_of_neg (by simpa using ha), ih, lookup_cons_ite, ha]
      by_cases hx : x = k <;> simp [hx]
    · rw [List.filter_cons_of_pos (by simpa using ha), lookup_cons_ite, lookup_cons_ite, ih]
      by_cases hx : x = a.1
      · have : x ≠ k := by rw [hx]; exact ha
        rw [if_pos hx, if_neg this, if_pos hx]
      · simp [hx]

/-- The entries are the pairs of a key and what is found under it. -/
theorem mem_entries {t : Table κ α} {k : κ} {v : α} : (k, v) ∈ t.entries ↔ t.get? k = some v := by
  obtain ⟨l, hl⟩ := t
  simp only [get?]
  induction l with
  | nil => simp
  | cons a rest ih =>
    have ⟨ha, hrest⟩ := List.pairwise_cons.1 hl
    rw [lookup_cons_ite, List.mem_cons]
    by_cases h : k = a.1
    · rw [if_pos h]
      constructor
      · rintro (h' | h')
        · rw [← h']
        · exact absurd h.symm (Key.ne_of_precedes (ha _ h'))
      · rintro h'
        exact .inl (by rw [h]; exact Prod.ext rfl (Option.some.inj h').symm)
    · rw [if_neg h, ← ih hrest]
      constructor
      · rintro (h' | h')
        · exact absurd (congrArg Prod.fst h') h
        · exact h'
      · exact .inr

variable {t u : Table κ α} {k x : κ} {v : α}

/-- The values are those that some key has. -/
theorem mem_values : v ∈ t.values ↔ ∃ k, t.get? k = some v := by
  rw [values, List.mem_map]
  constructor
  · rintro ⟨⟨k, v⟩, hmem, rfl⟩
    exact ⟨k, mem_entries.mp hmem⟩
  · rintro ⟨k, h⟩
    exact ⟨(k, v), mem_entries.mpr h, rfl⟩

/-- The keys are those that have a value. -/
theorem mem_keys : x ∈ t.keys ↔ t.contains x = true := by
  rw [keys, List.mem_map, contains, Option.isSome_iff_exists]
  constructor
  · rintro ⟨⟨k, v⟩, hmem, rfl⟩
    exact ⟨v, mem_entries.mp hmem⟩
  · rintro ⟨v, h⟩
    exact ⟨(x, v), mem_entries.mpr h, rfl⟩

omit [DecidableEq κ] in
/-- Every key has one entry. -/
theorem nodup_keys (t : Table κ α) : t.keys.Nodup :=
  (List.pairwise_map.mpr t.sorted).imp Key.ne_of_precedes

theorem contains_of_get? (h : t.get? x = some v) : t.contains x = true := by
  rw [contains, h, Option.isSome_some]

/-- A key is not in the table exactly if nothing is found under it. -/
theorem contains_eq_false_iff : t.contains x = false ↔ t.get? x = none := by
  rw [contains, Option.isSome_eq_false_iff, Option.isNone_iff_eq_none]

@[simp]
theorem get?_empty : (empty : Table κ α).get? x = none := rfl

/-- After an insertion the new value is found under its key, and the others as before. -/
theorem get?_insert : (t.insert k v).get? x = if x = k then some v else t.get? x := lookup_place

theorem get?_map {β : Type} {f : κ → α → β} : (t.map f).get? x = (t.get? x).map (f x) := lookup_map

/-- A modification changes what is found under its key, if anything is. -/
theorem get?_modify {f : α → α} :
    (t.modify k f).get? x = if x = k then (t.get? x).map f else t.get? x := by
  rw [modify, get?_map]
  by_cases h : x = k <;> simp [h]

theorem get?_erase : (t.erase k).get? x = if x = k then none else t.get? x := lookup_filter

/-- Tables that answer every lookup alike are equal. -/
@[ext]
theorem ext (h : ∀ x, t.get? x = u.get? x) : t = u := by
  have hmem : ∀ e, e ∈ t.entries ↔ e ∈ u.entries := fun e => by
    rw [show e = (e.1, e.2) from rfl, mem_entries, mem_entries, h]
  obtain ⟨l, hl⟩ := t
  obtain ⟨m, hm⟩ := u
  congr
  clear h
  simp only at hmem
  induction l generalizing m with
  | nil =>
    cases m with
    | nil => rfl
    | cons b m => exact absurd ((hmem b).2 (by simp)) (by simp)
  | cons a l ih =>
    cases m with
    | nil => exact absurd ((hmem a).1 (by simp)) (by simp)
    | cons b m =>
      have ⟨ha, hl'⟩ := List.pairwise_cons.1 hl
      have ⟨hb, hm'⟩ := List.pairwise_cons.1 hm
      have hab : a = b := by
        rcases List.mem_cons.1 ((hmem a).1 (by simp)) with hab | hab
        · exact hab
        · rcases List.mem_cons.1 ((hmem b).2 (by simp)) with hba | hba
          · exact hba.symm
          · have := Key.trans (ha b hba) (hb a hab)
            simp [Key.irrefl] at this
      subst hab
      congr 1
      refine ih hl' m hm' fun e => ?_
      constructor
      · intro he
        rcases List.mem_cons.1 ((hmem e).1 (List.mem_cons_of_mem _ he)) with rfl | he'
        · exact absurd rfl (Key.ne_of_precedes (ha e he))
        · exact he'
      · intro he
        rcases List.mem_cons.1 ((hmem e).2 (List.mem_cons_of_mem _ he)) with rfl | he'
        · exact absurd rfl (Key.ne_of_precedes (hb e he))
        · exact he'

end Table

end Skirmish
