import Skirmish.Map.Document
import Skirmish.Order.Basic
import Skirmish.World.Document

/-!
# Parts of orders as documents

Orders themselves are never written down, but the places and targets in them are, and so are the
names of the kinds of assignees and actions.
-/

namespace Skirmish

/-! ## Kinds -/

/-- Every kind of assignee. -/
def AssigneeKind.all : List AssigneeKind := [.fallback, .unitType, .flags, .group]

/-- The name of a kind of assignee. -/
def AssigneeKind.name : AssigneeKind → String
  | .fallback => "default"
  | .unitType => "unit_type"
  | .flags => "flags"
  | .group => "group"

/-- The kinds of assignees by their names. -/
def AssigneeKind.names : List (String × AssigneeKind) := all.map fun value => (value.name, value)

/-- The kind of assignee that a document stands for. -/
def AssigneeKind.ofDocument? (dialect : Dialect) (d : Document) : Option AssigneeKind :=
  d.plainVariant? dialect names

/-- The document of a kind of assignee. -/
def AssigneeKind.toDocument (value : AssigneeKind) : Document := .text value.name

/-- Every kind of action. -/
def ActionKind.all : List ActionKind :=
  [.simple, .exactLocation, .nearLocation, .targetUnit, .harvestMineralsNear, .harvestGasNear,
    .groupEdit]

/-- The name of a kind of action. -/
def ActionKind.name : ActionKind → String
  | .simple => "simple"
  | .exactLocation => "exact_location"
  | .nearLocation => "near_location"
  | .targetUnit => "target_unit"
  | .harvestMineralsNear => "harvest_minerals_near"
  | .harvestGasNear => "harvest_gas_near"
  | .groupEdit => "group_edit"

/-- The kinds of actions by their names. -/
def ActionKind.names : List (String × ActionKind) := all.map fun value => (value.name, value)

/-- The kind of action that a document stands for. -/
def ActionKind.ofDocument? (dialect : Dialect) (d : Document) : Option ActionKind :=
  d.plainVariant? dialect names

/-- The document of a kind of action. -/
def ActionKind.toDocument (value : ActionKind) : Document := .text value.name

/-- The name of a multiplicity. -/
def Multiplicity.name : Multiplicity → String
  | .exclusive => "exclusive"
  | .allowMultiple => "allow_multiple"

/-- The multiplicities by their names. -/
def Multiplicity.names : List (String × Multiplicity) :=
  [Multiplicity.exclusive, .allowMultiple].map fun value => (value.name, value)

/-- The multiplicity that a document stands for. -/
def Multiplicity.ofDocument? (dialect : Dialect) (d : Document) : Option Multiplicity :=
  d.plainVariant? dialect names

/-- The document of a multiplicity. -/
def Multiplicity.toDocument (value : Multiplicity) : Document := .text value.name

/-! ## Places -/

namespace Place

/-- The base that a variant names. -/
def baseOf? (dialect : Dialect) (content : Document) : Option UInt64 := do
  let fields ← content.fields? dialect dialect.closesVariants ["base"]
  fields.required 0 Document.uint64?

/-- The base and the index that a variant names. -/
def baseAndIndexOf? (dialect : Dialect) (content : Document) : Option (UInt64 × UInt64) := do
  let fields ← content.fields? dialect dialect.closesVariants ["base", "index"]
  return (← fields.required 0 Document.uint64?, ← fields.required 1 Document.uint64?)

/-- The places without content by their names. -/
def plainNames : List (String × Place) :=
  [("start_location", .startLocation), ("proxy_location", .proxyLocation),
    ("newest_active_base", .newestActiveBase)]

/-- The place that a document stands for. -/
def ofDocument? (dialect : Dialect) (d : Document) : Option Place :=
  match d.variant? with
  | some ("literal", some content) => (Point.ofDocument? dialect content).map .literal
  | some ("townhall", some content) => (baseOf? dialect content).map .townhall
  | some ("build_area", some content) =>
    (baseAndIndexOf? dialect content).map fun (base, index) => .buildArea base index
  | some ("defend_point", some content) =>
    (baseAndIndexOf? dialect content).map fun (base, index) => .defendPoint base index
  | some ("rally_point", some content) => (baseOf? dialect content).map .rallyPoint
  | some ("stored", some content) => content.text?.map .stored
  | _ => d.plainVariant? dialect plainNames

/-- The document of a base. -/
def baseDocument (base : UInt64) : Document := .record [("base", .integer base.toNat)]

/-- The document of a base and an index. -/
def baseAndIndexDocument (base index : UInt64) : Document :=
  .record [("base", .integer base.toNat), ("index", .integer index.toNat)]

/-- The document of a place. -/
def toDocument : Place → Document
  | literal point => .record [("literal", point.toDocument)]
  | startLocation => .text "start_location"
  | proxyLocation => .text "proxy_location"
  | townhall base => .record [("townhall", baseDocument base)]
  | buildArea base index => .record [("build_area", baseAndIndexDocument base index)]
  | defendPoint base index => .record [("defend_point", baseAndIndexDocument base index)]
  | rallyPoint base => .record [("rally_point", baseDocument base)]
  | newestActiveBase => .text "newest_active_base"
  | stored label => .record [("stored", .text label)]

end Place

/-! ## Targets -/

namespace TargetUnit

/-- The target that a document stands for. -/
def ofDocument? (d : Document) : Option TargetUnit :=
  match d.variant? with
  | some ("tag", some content) => (UnitTag.ofDocument? content).map .unit
  | some ("of_type", some content) => (UnitType.ofDocument? content).map .ofType
  | some ("stored_type", some content) => content.text?.map .storedType
  | _ => none

/-- The document of a target. -/
def toDocument : TargetUnit → Document
  | unit tag => .record [("tag", tag.toDocument)]
  | ofType type => .record [("of_type", type.toDocument)]
  | storedType label => .record [("stored_type", .text label)]

end TargetUnit

end Skirmish
