import Skirmish.Number.Text
import Skirmish.Order.Kind
import Skirmish.Order.OrderId
import Skirmish.Strategy.Metric
import Skirmish.World.UnitTag

/-!
# Errors

What can go wrong, as causes. The words for a cause are in `Error.message` and nowhere else.
-/

namespace Skirmish

/-- A field that an order of a strategy needs. -/
inductive OrderField where
  | unitType
  | group
  | location
  | target
  | ability
deriving DecidableEq, Repr, Inhabited

namespace OrderField

/-- The name of the field. -/
def name : OrderField → String
  | unitType => "unit_type"
  | group => "group"
  | location => "location"
  | target => "target"
  | ability => "ability"

end OrderField

/-- What is wrong with a strategy. -/
inductive StrategyFault where
  | unknownUnitType (name : String)
  | unknownAbility (name : String)
  | orderNeeds (rule : String) (field : OrderField)
  | conditionNeedsUnitType (rule : String) (kind : ConditionKind)
  | conditionNeedsDisk (rule : String) (kind : ConditionKind)
deriving DecidableEq, Repr

namespace StrategyFault

/-- The fault in words. -/
def message : StrategyFault → String
  | unknownUnitType name => s!"unknown unit type '{name}'"
  | unknownAbility name => s!"unknown ability '{name}'"
  | orderNeeds rule field => s!"rule '{rule}': order needs '{field.name}'"
  | conditionNeedsUnitType rule kind => s!"rule '{rule}': {kind.title} needs a unit_type"
  | conditionNeedsDisk rule kind => s!"rule '{rule}': {kind.title} needs center and radius"

end StrategyFault

/-- What is wrong with a configuration or a layout. -/
inductive ConfigFault where
  | radiiNotPositive (defaultRadius armySpawnJitter : Number.Single)
  | blinkFractionOutOfRange (fraction : Number.Single)
  | negativeClaimRadius
  | startBaseOutOfRange (startBase : UInt64) (bases : Nat)
deriving DecidableEq, Repr

namespace ConfigFault

/-- A number in a message. -/
def number (x : Number.Single) : String := String.ofList (Number.plain x)

/-- The fault in words. -/
def message : ConfigFault → String
  | radiiNotPositive radius jitter =>
    s!"radii must be positive (default_radius = {number radius}, army_spawn_jitter = {number jitter})"
  | blinkFractionOutOfRange fraction =>
    s!"blink_health_fraction ({number fraction}) must lie in [0, 1]"
  | negativeClaimRadius => "geyser_claim_radius must not be negative"
  | startBaseOutOfRange startBase bases =>
    s!"start_base {startBase.toNat} out of range ({bases} bases)"

end ConfigFault

/-- What can go wrong. -/
inductive Error where
  | invalidPairing (assignee : AssigneeKind) (action : ActionKind)
  | bundleOccupied (order : OrderId)
  | orderLocked (order : OrderId)
  | noLocation (order : OrderId)
  | agentNotFound (tag : UnitTag)
  | orderNotFound (order : OrderId)
  | strategy (fault : StrategyFault)
  | config (fault : ConfigFault)
  /-- A file cannot be read. -/
  | file
  /-- A TOML text denotes no value of the wanted type. -/
  | toml
  /-- A JSON text denotes no value of the wanted type. -/
  | json
deriving DecidableEq, Repr

namespace Error

/-- The error in words. -/
def message : Error → String
  | invalidPairing assignee action =>
    s!"Invalid order pairing: {assignee.title} cannot perform {action.title}"
  | bundleOccupied order => s!"Order {order.text} already carries a bundled order"
  | orderLocked order => s!"Order {order.text} is locked"
  | noLocation order => s!"Order {order.text} has no target location"
  | agentNotFound tag => s!"Agent not found: {tag.text}"
  | orderNotFound order => s!"Order not found: {order.text}"
  | strategy fault => s!"Invalid strategy: {fault.message}"
  | config fault => s!"Invalid configuration: {fault.message}"
  | file => "IO error"
  | toml => "TOML error"
  | json => "Serialization error"

end Error

end Skirmish
