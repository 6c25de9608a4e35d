/-!
# Keys with one ascending order

Everything that this library lists "by tag", "by id" or "by name" is listed in the ascending order
of a key. `Key` is that order as a boolean test together with the three laws that make a sorted
list of keys unique: no key precedes itself, precedence chains, and two keys of which neither
precedes the other are equal.

Most keys are numbers in disguise; `Key.ofRank` builds their order from an injective rank.
-/

namespace Skirmish

/-- A type whose values are listed in one fixed ascending order. -/
class Key (κ : Type) where
  /-- Whether the first key comes strictly before the second. -/
  precedes : κ → κ → Bool
  irrefl : ∀ a, precedes a a = false
  trans : ∀ {a b c}, precedes a b = true → precedes b c = true → precedes a c = true
  connex : ∀ {a b}, precedes a b = false → precedes b a = false → a = b

namespace Key

/-- The order of a type whose values are told apart by a rank. -/
@[reducible]
def ofRank {κ : Type} [DecidableEq κ] (rank : κ → Nat)
    (injective : ∀ {a b}, rank a = rank b → a = b) : Key κ where
  precedes a b := decide (rank a < rank b)
  irrefl a := by simp
  trans h₁ h₂ := by
    have h₁ := of_decide_eq_true h₁
    have h₂ := of_decide_eq_true h₂
    exact decide_eq_true (Nat.lt_trans h₁ h₂)
  connex h₁ h₂ := injective (by
    have h₁ := of_decide_eq_false h₁
    have h₂ := of_decide_eq_false h₂
    omega)

/-- Texts are ordered by their code points. -/
instance : Key String where
  precedes a b := decide (a < b)
  irrefl a := decide_eq_false (String.lt_irrefl a)
  trans h₁ h₂ := by
    have h₁ := of_decide_eq_true h₁
    have h₂ := of_decide_eq_true h₂
    exact decide_eq_true (String.lt_trans h₁ h₂)
  connex h₁ h₂ := by
    have h₁ := of_decide_eq_false h₁
    have h₂ := of_decide_eq_false h₂
    exact String.le_antisymm (String.not_lt.1 h₂) (String.not_lt.1 h₁)

variable {κ : Type} [Key κ] {a b : κ}

/-- Of two keys at most one precedes the other. -/
theorem asymm (h : precedes a b = true) : precedes b a = false := by
  cases hb : precedes b a with
  | false => rfl
  | true =>
    have := trans h hb
    simp [irrefl] at this

/-- A key does not precede itself. -/
theorem ne_of_precedes (h : precedes a b = true) : a ≠ b := by
  rintro rfl
  simp [irrefl] at h

end Key

end Skirmish
