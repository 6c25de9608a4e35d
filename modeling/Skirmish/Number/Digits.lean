/-!
# Digits

Numbers spelled with digits in a base of at most sixteen; the letters from `a` to `f`, in either
case, are the digits from ten on.
-/

namespace Skirmish.Number

/-- The value of a hexadecimal digit. -/
def hexDigit? (c : Char) : Option Nat :=
  if '0' ≤ c ∧ c ≤ '9' then some (c.toNat - '0'.toNat)
  else if 'a' ≤ c ∧ c ≤ 'f' then some (c.toNat - 'a'.toNat + 10)
  else if 'A' ≤ c ∧ c ≤ 'F' then some (c.toNat - 'A'.toNat + 10)
  else none

/-- The value of a digit in a base. -/
def digit? (base : Nat) (c : Char) : Option Nat := (hexDigit? c).filter fun d => decide (d < base)

/-- Whether the character is a digit in a base. -/
def isDigit (base : Nat) (c : Char) : Bool := (digit? base c).isSome

/-- The value of digits in a base, if all of them are digits. -/
def ofDigits? (base : Nat) (cs : List Char) : Option Nat :=
  cs.foldl (fun n c => n.bind fun n => (digit? base c).map (base * n + ·)) (some 0)

end Skirmish.Number
