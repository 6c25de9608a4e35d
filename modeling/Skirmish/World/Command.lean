import Skirmish.Catalog.Ability
import Skirmish.Map.Point
import Skirmish.World.UnitTag

/-!
# Commands

A command tells one or more units to use an ability. The commands of a tick are collected in the
order in which they are issued before any of them is sent, so that later decisions of the tick can
see the earlier ones.
-/

namespace Skirmish

/-- What a command is aimed at. -/
inductive CommandTarget where
  | nothing
  | point (position : Point)
  | unit (tag : UnitTag)
deriving DecidableEq, Repr, Inhabited

/-- One command. -/
structure Command where
  units : List UnitTag
  ability : Ability
  target : CommandTarget
  /-- Whether the units finish what they are doing first. -/
  queued : Bool
deriving DecidableEq, Repr, Inhabited

namespace Command

/-- A command for one unit, to be carried out at once. -/
def single (tag : UnitTag) (ability : Ability) (target : CommandTarget) : Command :=
  ⟨[tag], ability, target, false⟩

/-- Whether the command addresses a unit. -/
def addresses (command : Command) (tag : UnitTag) : Bool := command.units.contains tag

end Command

/-- The commands issued so far, in the order in which they were issued. -/
abbrev Outbox := List Command

namespace Outbox

/-- The number of commands that address a unit. -/
def countFor (outbox : Outbox) (tag : UnitTag) : Nat := outbox.countP (·.addresses tag)

/-- Whether some command uses an ability. -/
def uses (outbox : Outbox) (ability : Ability) : Bool := outbox.any (·.ability = ability)

end Outbox

end Skirmish
