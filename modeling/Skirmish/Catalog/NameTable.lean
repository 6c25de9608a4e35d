/-!
# Tables of named numbers

Unit types, abilities and upgrades are numbers, and some of those numbers have names. A number
without a name is as good as one with a name everywhere except in texts.

Names are looked up without regard to the case of ASCII letters; every other character has to be
the same.
-/

namespace Skirmish

/-- Names for some of the values of a type, in one fixed order. -/
abbrev NameTable (α : Type) := List (String × α)

namespace NameTable

/-- Whether two texts differ at most in the case of ASCII letters. -/
def sameName (a b : String) : Bool :=
  a.toList.map Char.toLower == b.toList.map Char.toLower

variable {α : Type}

/-- The value of a name: that of the first entry with the name. -/
def byName (table : NameTable α) (name : String) : Option α :=
  (table.find? fun entry => sameName entry.1 name).map (·.2)

/-- The name of a value: that of the first entry with the value. -/
def nameOf [DecidableEq α] (table : NameTable α) (value : α) : Option String :=
  (table.find? fun entry => entry.2 = value).map (·.1)

end NameTable

end Skirmish
