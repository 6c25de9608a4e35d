/-!
# The least element of a list

Choices in this library are always "the least by some measure": the nearest unit, the unit with the
smallest tag, the base at the smallest distance. `least` makes the choice for any strict comparison;
of several elements of which none precedes the other it takes the first.
-/

namespace Skirmish

/-- The first element that no other element of the list precedes. -/
def least {α : Type} (precedes : α → α → Bool) : List α → Option α
  | [] => none
  | a :: rest =>
    match least precedes rest with
    | none => some a
    | some b => if precedes b a then some b else some a

variable {α : Type} {precedes : α → α → Bool}

/-- Only an empty list has no least element. -/
theorem least_eq_none_iff {l : List α} : least precedes l = none ↔ l = [] := by
  cases l with
  | nil => simp [least]
  | cons a rest =>
    simp only [least, reduceCtorEq, iff_false]
    split
    · simp
    · split <;> simp

/-- The least element is one of the list. -/
theorem mem_of_least {l : List α} {a : α} (h : least precedes l = some a) : a ∈ l := by
  induction l with
  | nil => simp [least] at h
  | cons b rest ih =>
    unfold least at h
    split at h
    · simp_all
    · rename_i c hc
      split at h
      · rw [Option.some.inj h] at hc
        exact List.mem_cons_of_mem _ (ih hc)
      · rw [Option.some.inj h]
        exact List.mem_cons_self

end Skirmish
