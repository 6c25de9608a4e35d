import Skirmish.Catalog.NameTable

/-!
# Abilities

What a unit can be told to do, the names of the known abilities, and which of them build something.
-/

namespace Skirmish

/-- An ability, by its number in the simulation. -/
structure Ability where
  code : UInt32
deriving DecidableEq, Repr, Inhabited

namespace Ability

def smart : Ability := ⟨1⟩
def buildSupplyDepot : Ability := ⟨319⟩
def buildRefinery : Ability := ⟨320⟩
def buildBarracks : Ability := ⟨321⟩
def trainScv : Ability := ⟨524⟩
def trainMarine : Ability := ⟨560⟩
def buildNexus : Ability := ⟨880⟩
def buildPylon : Ability := ⟨881⟩
def buildAssimilator : Ability := ⟨882⟩
def buildGateway : Ability := ⟨883⟩
def buildPhotonCannon : Ability := ⟨887⟩
def buildCyberneticsCore : Ability := ⟨894⟩
def trainZealot : Ability := ⟨916⟩
def trainStalker : Ability := ⟨917⟩
def trainProbe : Ability := ⟨1006⟩
def buildHatchery : Ability := ⟨1152⟩
def buildExtractor : Ability := ⟨1154⟩
def trainDrone : Ability := ⟨1342⟩
def stop : Ability := ⟨3665⟩
def harvestGather : Ability := ⟨3666⟩
def attack : Ability := ⟨3674⟩
def effectBlink : Ability := ⟨3687⟩
def effectChronoBoostEnergyCost : Ability := ⟨3755⟩
def move : Ability := ⟨3794⟩

/-- The values that have a name. -/
def names : NameTable Ability :=
  [("SMART", smart),
    ("BUILD_SUPPLYDEPOT", buildSupplyDepot),
    ("BUILD_REFINERY", buildRefinery),
    ("BUILD_BARRACKS", buildBarracks),
    ("TRAIN_SCV", trainScv),
    ("TRAIN_MARINE", trainMarine),
    ("BUILD_NEXUS", buildNexus),
    ("BUILD_PYLON", buildPylon),
    ("BUILD_ASSIMILATOR", buildAssimilator),
    ("BUILD_GATEWAY", buildGateway),
    ("BUILD_PHOTONCANNON", buildPhotonCannon),
    ("BUILD_CYBERNETICSCORE", buildCyberneticsCore),
    ("TRAIN_ZEALOT", trainZealot),
    ("TRAIN_STALKER", trainStalker),
    ("TRAIN_PROBE", trainProbe),
    ("BUILD_HATCHERY", buildHatchery),
    ("BUILD_EXTRACTOR", buildExtractor),
    ("TRAIN_DRONE", trainDrone),
    ("STOP", stop),
    ("HARVEST_GATHER", harvestGather),
    ("ATTACK", attack),
    ("EFFECT_BLINK", effectBlink),
    ("EFFECT_CHRONOBOOSTENERGYCOST", effectChronoBoostEnergyCost),
    ("MOVE", move)]

/-- The value with a name. -/
def byName (name : String) : Option Ability := names.byName name

/-- The name of a value. -/
def name? (value : Ability) : Option String := names.nameOf value

/-- A value in a text: its name, or else its number. -/
def text (value : Ability) : String :=
  value.name?.getD s!"AbilityId({value.code.toNat})"

/-! ## Kinds of abilities -/

/-- Abilities that place a gas structure on a geyser. -/
def buildsGasStructure (ability : Ability) : Bool :=
  [buildAssimilator, buildExtractor, buildRefinery].contains ability

/-- Abilities that make a worker build a structure: those whose name says so. -/
def buildsStructure (ability : Ability) : Bool :=
  match ability.name? with
  | some name => "BUILD_".toList.isPrefixOf name.toList
  | none => false

end Ability

end Skirmish
