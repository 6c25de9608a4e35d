import Skirmish.Catalog.NameTable

/-!
# Unit types

What kind of unit the simulation says a unit is, the names of the known kinds, and the roles that
follow from the kind alone.
-/

namespace Skirmish

/-- A kind of unit, by its number in the simulation. -/
structure UnitType where
  code : UInt32
deriving DecidableEq, Repr, Inhabited

namespace UnitType

def terranCommandCenter : UnitType := ⟨18⟩
def terranSupplyDepot : UnitType := ⟨19⟩
def terranRefinery : UnitType := ⟨20⟩
def terranBarracks : UnitType := ⟨21⟩
def terranMissileTurret : UnitType := ⟨23⟩
def terranBunker : UnitType := ⟨24⟩
def terranCommandCenterFlying : UnitType := ⟨36⟩
def terranScv : UnitType := ⟨45⟩
def terranMarine : UnitType := ⟨48⟩
def terranPlanetaryFortress : UnitType := ⟨130⟩
def terranOrbitalCommand : UnitType := ⟨132⟩
def terranOrbitalCommandFlying : UnitType := ⟨134⟩
def terranRefineryRich : UnitType := ⟨1943⟩
def protossNexus : UnitType := ⟨59⟩
def protossPylon : UnitType := ⟨60⟩
def protossAssimilator : UnitType := ⟨61⟩
def protossGateway : UnitType := ⟨62⟩
def protossPhotonCannon : UnitType := ⟨66⟩
def protossZealot : UnitType := ⟨73⟩
def protossStalker : UnitType := ⟨74⟩
def protossCyberneticsCore : UnitType := ⟨72⟩
def protossProbe : UnitType := ⟨84⟩
def protossAssimilatorRich : UnitType := ⟨1994⟩
def zergHatchery : UnitType := ⟨86⟩
def zergExtractor : UnitType := ⟨88⟩
def zergSpineCrawler : UnitType := ⟨98⟩
def zergSporeCrawler : UnitType := ⟨99⟩
def zergLair : UnitType := ⟨100⟩
def zergHive : UnitType := ⟨101⟩
def zergDrone : UnitType := ⟨104⟩
def zergZergling : UnitType := ⟨105⟩
def zergExtractorRich : UnitType := ⟨1995⟩
def neutralRichMineralField : UnitType := ⟨146⟩
def neutralRichMineralField750 : UnitType := ⟨147⟩
def neutralMineralField : UnitType := ⟨341⟩
def neutralVespeneGeyser : UnitType := ⟨342⟩
def neutralSpacePlatformGeyser : UnitType := ⟨343⟩
def neutralRichVespeneGeyser : UnitType := ⟨344⟩
def neutralMineralField750 : UnitType := ⟨483⟩
def neutralPurifierVespeneGeyser : UnitType := ⟨608⟩
def neutralLabMineralField : UnitType := ⟨665⟩
def neutralLabMineralField750 : UnitType := ⟨666⟩
def neutralPurifierRichMineralField : UnitType := ⟨796⟩
def neutralPurifierRichMineralField750 : UnitType := ⟨797⟩
def neutralProtossVespeneGeyser : UnitType := ⟨880⟩
def neutralShakurasVespeneGeyser : UnitType := ⟨881⟩
def neutralPurifierMineralField : UnitType := ⟨884⟩
def neutralPurifierMineralField750 : UnitType := ⟨885⟩
def neutralBattleStationMineralField : UnitType := ⟨886⟩
def neutralBattleStationMineralField750 : UnitType := ⟨887⟩

/-- The values that have a name. -/
def names : NameTable UnitType :=
  [("TERRAN_COMMANDCENTER", terranCommandCenter),
    ("TERRAN_SUPPLYDEPOT", terranSupplyDepot),
    ("TERRAN_REFINERY", terranRefinery),
    ("TERRAN_BARRACKS", terranBarracks),
    ("TERRAN_MISSILETURRET", terranMissileTurret),
    ("TERRAN_BUNKER", terranBunker),
    ("TERRAN_COMMANDCENTERFLYING", terranCommandCenterFlying),
    ("TERRAN_SCV", terranScv),
    ("TERRAN_MARINE", terranMarine),
    ("TERRAN_PLANETARYFORTRESS", terranPlanetaryFortress),
    ("TERRAN_ORBITALCOMMAND", terranOrbitalCommand),
    ("TERRAN_ORBITALCOMMANDFLYING", terranOrbitalCommandFlying),
    ("TERRAN_REFINERYRICH", terranRefineryRich),
    ("PROTOSS_NEXUS", protossNexus),
    ("PROTOSS_PYLON", protossPylon),
    ("PROTOSS_ASSIMILATOR", protossAssimilator),
    ("PROTOSS_GATEWAY", protossGateway),
    ("PROTOSS_PHOTONCANNON", protossPhotonCannon),
    ("PROTOSS_ZEALOT", protossZealot),
    ("PROTOSS_STALKER", protossStalker),
    ("PROTOSS_CYBERNETICSCORE", protossCyberneticsCore),
    ("PROTOSS_PROBE", protossProbe),
    ("PROTOSS_ASSIMILATORRICH", protossAssimilatorRich),
    ("ZERG_HATCHERY", zergHatchery),
    ("ZERG_EXTRACTOR", zergExtractor),
    ("ZERG_SPINECRAWLER", zergSpineCrawler),
    ("ZERG_SPORECRAWLER", zergSporeCrawler),
    ("ZERG_LAIR", zergLair),
    ("ZERG_HIVE", zergHive),
    ("ZERG_DRONE", zergDrone),
    ("ZERG_ZERGLING", zergZergling),
    ("ZERG_EXTRACTORRICH", zergExtractorRich),
    ("NEUTRAL_RICHMINERALFIELD", neutralRichMineralField),
    ("NEUTRAL_RICHMINERALFIELD750", neutralRichMineralField750),
    ("NEUTRAL_MINERALFIELD", neutralMineralField),
    ("NEUTRAL_VESPENEGEYSER", neutralVespeneGeyser),
    ("NEUTRAL_SPACEPLATFORMGEYSER", neutralSpacePlatformGeyser),
    ("NEUTRAL_RICHVESPENEGEYSER", neutralRichVespeneGeyser),
    ("NEUTRAL_MINERALFIELD750", neutralMineralField750),
    ("NEUTRAL_PURIFIERVESPENEGEYSER", neutralPurifierVespeneGeyser),
    ("NEUTRAL_LABMINERALFIELD", neutralLabMineralField),
    ("NEUTRAL_LABMINERALFIELD750", neutralLabMineralField750),
    ("NEUTRAL_PURIFIERRICHMINERALFIELD", neutralPurifierRichMineralField),
    ("NEUTRAL_PURIFIERRICHMINERALFIELD750", neutralPurifierRichMineralField750),
    ("NEUTRAL_PROTOSSVESPENEGEYSER", neutralProtossVespeneGeyser),
    ("NEUTRAL_SHAKURASVESPENEGEYSER", neutralShakurasVespeneGeyser),
    ("NEUTRAL_PURIFIERMINERALFIELD", neutralPurifierMineralField),
    ("NEUTRAL_PURIFIERMINERALFIELD750", neutralPurifierMineralField750),
    ("NEUTRAL_BATTLESTATIONMINERALFIELD", neutralBattleStationMineralField),
    ("NEUTRAL_BATTLESTATIONMINERALFIELD750", neutralBattleStationMineralField750)]

/-- The value with a name. -/
def byName (name : String) : Option UnitType := names.byName name

/-- The name of a value. -/
def name? (value : UnitType) : Option String := names.nameOf value

/-- A value in a text: its name, or else its number. -/
def text (value : UnitType) : String :=
  value.name?.getD s!"UnitTypeId({value.code.toNat})"

/-! ## Kinds of unit types -/

/-- Units that gather resources and build structures. -/
def isWorker (type : UnitType) : Bool :=
  [terranScv, protossProbe, zergDrone].contains type

/-- Structures that make a location a base. -/
def isTownhall (type : UnitType) : Bool :=
  [protossNexus, terranCommandCenter, terranCommandCenterFlying, terranOrbitalCommand,
    terranOrbitalCommandFlying, terranPlanetaryFortress, zergHatchery, zergLair, zergHive].contains type

/-- Fields from which minerals are gathered. -/
def isMineralPatch (type : UnitType) : Bool :=
  [neutralBattleStationMineralField750, neutralBattleStationMineralField,
    neutralLabMineralField750, neutralLabMineralField, neutralMineralField750,
    neutralMineralField, neutralPurifierMineralField750, neutralPurifierMineralField,
    neutralPurifierRichMineralField750, neutralPurifierRichMineralField,
    neutralRichMineralField750, neutralRichMineralField].contains type

/-- Places on which a gas structure can stand. -/
def isGeyser (type : UnitType) : Bool :=
  [neutralVespeneGeyser, neutralProtossVespeneGeyser, neutralSpacePlatformGeyser,
    neutralPurifierVespeneGeyser, neutralShakurasVespeneGeyser, neutralRichVespeneGeyser].contains type

/-- Structures from which workers gather gas. -/
def isGasStructure (type : UnitType) : Bool :=
  [protossAssimilator, terranRefinery, zergExtractor, protossAssimilatorRich,
    terranRefineryRich, zergExtractorRich].contains type

/-- Gas structures that leave their builder standing beside them. -/
def strandsBuilder (type : UnitType) : Bool :=
  [protossAssimilator, protossAssimilatorRich].contains type

/-- Structures that defend a base. -/
def isDefenseStructure (type : UnitType) : Bool :=
  [protossPhotonCannon, terranBunker, terranMissileTurret, zergSpineCrawler, zergSporeCrawler].contains type

/-- Units that can blink away from danger. -/
def canBlink (type : UnitType) : Bool := type = protossStalker

end UnitType

end Skirmish
