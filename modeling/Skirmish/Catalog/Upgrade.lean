import Skirmish.Catalog.NameTable

/-!
# Upgrades

What has been researched.
-/

namespace Skirmish

/-- An upgrade, by its number in the simulation. -/
structure Upgrade where
  code : UInt32
deriving DecidableEq, Repr, Inhabited

namespace Upgrade

def blinkTech : Upgrade := ⟨87⟩
def warpGateResearch : Upgrade := ⟨84⟩

/-- The values that have a name. -/
def names : NameTable Upgrade :=
  [("BLINKTECH", blinkTech),
    ("WARPGATERESEARCH", warpGateResearch)]

/-- The value with a name. -/
def byName (name : String) : Option Upgrade := names.byName name

/-- The name of a value. -/
def name? (value : Upgrade) : Option String := names.nameOf value

/-- A value in a text: its name, or else its number. -/
def text (value : Upgrade) : String :=
  value.name?.getD s!"UpgradeId({value.code.toNat})"

end Upgrade

end Skirmish
