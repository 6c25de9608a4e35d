import Skirmish.Map.Document
import Skirmish.World.Snapshot

/-!
# Snapshots and commands as documents

Each type has a reader `ofDocument?` and a writer `toDocument`. Tags, unit types, abilities and
upgrades are bare numbers in documents.
-/

namespace Skirmish

/-- The tag that a document stands for. -/
def UnitTag.ofDocument? (d : Document) : Option UnitTag := d.uint64?.map UnitTag.mk

/-- The document of a tag. -/
def UnitTag.toDocument (tag : UnitTag) : Document := .integer tag.number.toNat

/-- The unit type that a document stands for. -/
def UnitType.ofDocument? (d : Document) : Option UnitType := d.uint32?.map UnitType.mk

/-- The document of a unit type. -/
def UnitType.toDocument (type : UnitType) : Document := .integer type.code.toNat

/-- The ability that a document stands for. -/
def Ability.ofDocument? (d : Document) : Option Ability := d.uint32?.map Ability.mk

/-- The document of an ability. -/
def Ability.toDocument (ability : Ability) : Document := .integer ability.code.toNat

/-- The upgrade that a document stands for. -/
def Upgrade.ofDocument? (d : Document) : Option Upgrade := d.uint32?.map Upgrade.mk

/-- The document of an upgrade. -/
def Upgrade.toDocument (upgrade : Upgrade) : Document := .integer upgrade.code.toNat

/-! ## Commands -/

/-- The target that a document stands for. -/
def CommandTarget.ofDocument? (dialect : Dialect) (d : Document) : Option CommandTarget :=
  match d.variant? with
  | some ("none", none) => some .nothing
  | some ("none", some content) => if dialect.isNoContent content then some .nothing else none
  | some ("point", some content) => (Point.ofDocument? dialect content).map .point
  | some ("unit", some content) => (UnitTag.ofDocument? content).map .unit
  | _ => none

/-- The document of a target. -/
def CommandTarget.toDocument : CommandTarget → Document
  | .nothing => .text "none"
  | .point p => .record [("point", p.toDocument)]
  | .unit tag => .record [("unit", tag.toDocument)]

/-- The command that a document stands for. -/
def Command.ofDocument? (dialect : Dialect) (d : Document) : Option Command := do
  let fields ← d.fields? dialect false ["units", "ability", "target", "queued"]
  return {
    units := ← fields.required 0 (Document.list? UnitTag.ofDocument?)
    ability := ← fields.required 1 Ability.ofDocument?
    target := ← fields.required 2 (CommandTarget.ofDocument? dialect)
    queued := ← fields.withDefault 3 Document.bool? false }

/-- The document of a command. -/
def Command.toDocument (command : Command) : Document := .record [
  ("units", .list (command.units.map UnitTag.toDocument)),
  ("ability", command.ability.toDocument),
  ("target", command.target.toDocument),
  ("queued", .bool command.queued)]

/-! ## Snapshots -/

/-- The sides by their names. -/
def Alliance.names : List (String × Alliance) :=
  [("own", .own), ("ally", .ally), ("neutral", .neutral), ("enemy", .enemy)]

/-- The name of a side. -/
def Alliance.name : Alliance → String
  | .own => "own"
  | .ally => "ally"
  | .neutral => "neutral"
  | .enemy => "enemy"

/-- The side that a document stands for. -/
def Alliance.ofDocument? (dialect : Dialect) (d : Document) : Option Alliance :=
  d.plainVariant? dialect names

/-- The document of a side. -/
def Alliance.toDocument (alliance : Alliance) : Document := .text alliance.name

/-- The activity that a document stands for. -/
def Activity.ofDocument? (dialect : Dialect) (d : Document) : Option Activity := do
  let fields ← d.fields? dialect false ["ability", "target"]
  return {
    ability := ← fields.required 0 Ability.ofDocument?
    target := ← fields.withDefault 1 (CommandTarget.ofDocument? dialect) .nothing }

/-- The document of an activity. -/
def Activity.toDocument (activity : Activity) : Document := .record [
  ("ability", activity.ability.toDocument),
  ("target", activity.target.toDocument)]

/-- The unit that a document stands for. -/
def UnitView.ofDocument? (dialect : Dialect) (d : Document) : Option UnitView := do
  let fields ← d.fields? dialect false
    ["tag", "unit_type", "alliance", "pos", "orders", "health", "health_max", "is_flying",
      "is_structure", "build_progress", "available_abilities"]
  return {
    tag := ← fields.required 0 UnitTag.ofDocument?
    unitType := ← fields.required 1 UnitType.ofDocument?
    alliance := ← fields.withDefault 2 (Alliance.ofDocument? dialect) .own
    position := ← fields.required 3 (Point.ofDocument? dialect)
    activities := ← fields.withDefault 4 (Document.list? (Activity.ofDocument? dialect)) []
    health := ← fields.withDefault 5 Document.real? fullHealth
    healthMax := ← fields.withDefault 6 Document.real? fullHealth
    isFlying := ← fields.withDefault 7 Document.bool? false
    isStructure := ← fields.withDefault 8 Document.bool? false
    buildProgress := ← fields.withDefault 9 Document.real? finished
    available := ← fields.withDefault 10 (Document.list? Ability.ofDocument?) [] }

/-- The document of a unit. -/
def UnitView.toDocument (unit : UnitView) : Document := .record [
  ("tag", unit.tag.toDocument),
  ("unit_type", unit.unitType.toDocument),
  ("alliance", unit.alliance.toDocument),
  ("pos", unit.position.toDocument),
  ("orders", .list (unit.activities.map Activity.toDocument)),
  ("health", .real unit.health),
  ("health_max", .real unit.healthMax),
  ("is_flying", .bool unit.isFlying),
  ("is_structure", .bool unit.isStructure),
  ("build_progress", .real unit.buildProgress),
  ("available_abilities", .list (unit.available.map Ability.toDocument))]

/-- The snapshot that a document stands for. -/
def Snapshot.ofDocument? (dialect : Dialect) (d : Document) : Option Snapshot := do
  let fields ← d.fields? dialect false
    ["game_loop", "minerals", "vespene", "food_used", "food_cap", "upgrades", "units"]
  return {
    gameLoop := ← fields.required 0 Document.uint64?
    minerals := ← fields.required 1 Document.uint32?
    vespene := ← fields.required 2 Document.uint32?
    foodUsed := ← fields.required 3 Document.uint32?
    foodCap := ← fields.required 4 Document.uint32?
    upgrades := ← fields.withDefault 5 (Document.list? Upgrade.ofDocument?) []
    units := ← fields.withDefault 6 (Document.list? (UnitView.ofDocument? dialect)) [] }

/-- The document of a snapshot. -/
def Snapshot.toDocument (snapshot : Snapshot) : Document := .record [
  ("game_loop", .integer snapshot.gameLoop.toNat),
  ("minerals", .integer snapshot.minerals.toNat),
  ("vespene", .integer snapshot.vespene.toNat),
  ("food_used", .integer snapshot.foodUsed.toNat),
  ("food_cap", .integer snapshot.foodCap.toNat),
  ("upgrades", .list (snapshot.upgrades.map Upgrade.toDocument)),
  ("units", .list (snapshot.units.map UnitView.toDocument))]

end Skirmish
