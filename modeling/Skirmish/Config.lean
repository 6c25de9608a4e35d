import Skirmish.Document.Reading
import Skirmish.Document.Toml.Parser
import Skirmish.Error
import Skirmish.Order.Basic

/-!
# Configuration

The numbers that a session can be tuned with. A configuration that is read from a text is checked;
the faults are looked for in a fixed order, and the first one is reported.
-/

namespace Skirmish

/-- The settings of a session. -/
structure Config where
  /-- The proximity of orders that do not name one. -/
  defaultRadius : Number.Single
  /-- The radius around their home in which army units are posted. -/
  armySpawnJitter : Number.Single
  /-- The number of mineral gatherers that are sent to a new gas structure. -/
  gasWorkersPerStructure : UInt64
  /-- Within this distance a gas structure claims a geyser. -/
  geyserClaimRadius : Number.Single
  /-- Below this fraction of its health a damaged unit blinks home. -/
  blinkHealthFraction : Number.Single
  /-- The seed of the random numbers. -/
  seed : UInt64
deriving DecidableEq, Repr

namespace Config

/-- The settings unless others are given. -/
def standard : Config where
  defaultRadius := Intent.defaultRadius
  armySpawnJitter := 2.5
  gasWorkersPerStructure := 3
  geyserClaimRadius := 1
  blinkHealthFraction := 0.5
  seed := 24301

instance : Inhabited Config := ⟨standard⟩

/-- The first fault of a configuration. -/
def fault? (config : Config) : Option ConfigFault :=
  if config.defaultRadius ≤ 0 ∨ config.armySpawnJitter < 0 then
    some (.radiiNotPositive config.defaultRadius config.armySpawnJitter)
  else if ¬(0 ≤ config.blinkHealthFraction ∧ config.blinkHealthFraction ≤ 1) then
    some (.blinkFractionOutOfRange config.blinkHealthFraction)
  else if config.geyserClaimRadius < 0 then some .negativeClaimRadius
  else none

/-- The names of the settings. -/
def fieldNames : List String :=
  ["default_radius", "army_spawn_jitter", "gas_workers_per_structure", "geyser_claim_radius",
    "blink_health_fraction", "seed"]

/-- The configuration that a document stands for; every setting may be left out. -/
def ofDocument? (dialect : Dialect) (d : Document) : Option Config := do
  let fields ← d.fields? dialect false fieldNames
  return {
    defaultRadius := ← fields.withDefault 0 Document.real? standard.defaultRadius
    armySpawnJitter := ← fields.withDefault 1 Document.real? standard.armySpawnJitter
    gasWorkersPerStructure :=
      ← fields.withDefault 2 Document.uint64? standard.gasWorkersPerStructure
    geyserClaimRadius := ← fields.withDefault 3 Document.real? standard.geyserClaimRadius
    blinkHealthFraction := ← fields.withDefault 4 Document.real? standard.blinkHealthFraction
    seed := ← fields.withDefault 5 Document.uint64? standard.seed }

/-- The document of a configuration. -/
def toDocument (config : Config) : Document := .record [
  ("default_radius", .real config.defaultRadius),
  ("army_spawn_jitter", .real config.armySpawnJitter),
  ("gas_workers_per_structure", .integer config.gasWorkersPerStructure.toNat),
  ("geyser_claim_radius", .real config.geyserClaimRadius),
  ("blink_health_fraction", .real config.blinkHealthFraction),
  ("seed", .integer config.seed.toNat)]

/-- The configuration that a TOML text says, if it has no fault. -/
def ofToml (text : String) : Except Error Config :=
  match (Toml.parse text).bind (ofDocument? .toml) with
  | none => .error .toml
  | some config =>
    match config.fault? with
    | some fault => .error (.config fault)
    | none => .ok config

end Config

end Skirmish
