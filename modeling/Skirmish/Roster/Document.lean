import Skirmish.Document.Reading
import Skirmish.Roster.Agent

/-!
# Capabilities and group edits as documents

Capabilities, categories and group edits are variants without content, so a document of one is its
name.
-/

namespace Skirmish

/-- Every capability, in the order in which capabilities are listed. -/
def Capability.all : List Capability :=
  [.worker, .army, .building, .townhall, .mineralGatherer, .gasGatherer, .placingGas, .flying,
    .defense]

/-- The name of a capability. -/
def Capability.name : Capability → String
  | .worker => "worker"
  | .army => "army"
  | .building => "structure"
  | .townhall => "townhall"
  | .mineralGatherer => "mineral_gatherer"
  | .gasGatherer => "gas_gatherer"
  | .placingGas => "building_gas"
  | .flying => "flying"
  | .defense => "defense"

/-- The capabilities by their names. -/
def Capability.names : List (String × Capability) := all.map fun value => (value.name, value)

/-- The capability that a document stands for. -/
def Capability.ofDocument? (dialect : Dialect) (d : Document) : Option Capability :=
  d.plainVariant? dialect names

/-- The document of a capability. -/
def Capability.toDocument (value : Capability) : Document := .text value.name

/-- Every category. -/
def Category.all : List Category := [.worker, .army, .building, .townhall]

/-- The name of a category. -/
def Category.name : Category → String
  | .worker => "worker"
  | .army => "army"
  | .building => "structure"
  | .townhall => "townhall"

/-- The categories by their names. -/
def Category.names : List (String × Category) := all.map fun value => (value.name, value)

/-- The category that a document stands for. -/
def Category.ofDocument? (dialect : Dialect) (d : Document) : Option Category :=
  d.plainVariant? dialect names

/-- The document of a category. -/
def Category.toDocument (value : Category) : Document := .text value.name

/-- The name of a group edit. -/
def GroupEdit.name : GroupEdit → String
  | .add => "add"
  | .remove => "remove"

/-- The group edits by their names. -/
def GroupEdit.names : List (String × GroupEdit) :=
  [GroupEdit.add, .remove].map fun value => (value.name, value)

/-- The group edit that a document stands for. -/
def GroupEdit.ofDocument? (dialect : Dialect) (d : Document) : Option GroupEdit :=
  d.plainVariant? dialect names

/-- The document of a group edit. -/
def GroupEdit.toDocument (value : GroupEdit) : Document := .text value.name

end Skirmish
