import Skirmish.Document.Toml.Parser
import Skirmish.Order.Document
import Skirmish.Roster.Document
import Skirmish.Strategy.File

/-!
# Strategy files as documents

Strategy files are read and never written. Conditions and orders may have no fields but their own;
rules, triggers and the file itself may.
-/

namespace Skirmish

/-- The kind of condition that a document stands for. -/
def ConditionKind.ofDocument? (dialect : Dialect) (d : Document) : Option ConditionKind :=
  d.plainVariant? dialect names

/-- The document of a kind of condition. -/
def ConditionKind.toDocument (kind : ConditionKind) : Document := .text kind.name

namespace Strategy

/-- The reference that a document stands for. -/
def Reference.ofDocument? (d : Document) : Option Reference :=
  match d.uint32? with
  | some number => some (.code number)
  | none => d.text?.map .named

/-- The target that a document stands for. -/
def TargetEntry.ofDocument? (d : Document) : Option TargetEntry :=
  match d.variant? with
  | some ("tag", some content) => (UnitTag.ofDocument? content).map .unit
  | some ("of_type", some content) => (Reference.ofDocument? content).map .ofType
  | some ("stored_type", some content) => content.text?.map .storedType
  | _ => none

/-- The condition that a document stands for. -/
def ConditionEntry.ofDocument? (dialect : Dialect) (d : Document) : Option ConditionEntry := do
  let fields ← d.fields? dialect true ["kind", "value", "unit_type", "center", "radius"]
  return {
    kind := ← fields.required 0 (ConditionKind.ofDocument? dialect)
    value := ← fields.required 1 Document.int64?
    unitType := ← fields.optional 2 Reference.ofDocument?
    center := ← fields.optional 3 (Point.ofDocument? dialect)
    radius := ← fields.optional 4 Document.real? }

/-- The conditions of the trigger that a document stands for. -/
def conditionsOf? (dialect : Dialect) (d : Document) : Option (List ConditionEntry) := do
  let fields ← d.fields? dialect false ["conditions"]
  fields.withDefault 0 (Document.list? (ConditionEntry.ofDocument? dialect)) []

/-- The names of the fields of an order. -/
def OrderEntry.fieldNames : List String :=
  ["assignee", "action", "ability", "unit_type", "flags", "group", "edit", "location", "radius",
    "target", "assignee_location", "assignee_radius", "allow_multiple", "lock", "bundle"]

/-- The order that fields stand for, without the one that follows. -/
def OrderEntry.ofFields? (dialect : Dialect) (fields : Document.Fields) : Option OrderEntry := do
  return {
    assignee := ← fields.required 0 (AssigneeKind.ofDocument? dialect)
    action := ← fields.required 1 (ActionKind.ofDocument? dialect)
    ability := ← fields.optional 2 Reference.ofDocument?
    unitType := ← fields.optional 3 Reference.ofDocument?
    flags := ← fields.withDefault 4 (Document.list? (Capability.ofDocument? dialect)) []
    group := ← fields.optional 5 Document.text?
    edit := ← fields.optional 6 (GroupEdit.ofDocument? dialect)
    location := ← fields.optional 7 (Place.ofDocument? dialect)
    radius := ← fields.optional 8 Document.real?
    target := ← fields.optional 9 TargetEntry.ofDocument?
    assigneeLocation := ← fields.optional 10 (Place.ofDocument? dialect)
    assigneeRadius := ← fields.optional 11 Document.real?
    allowMultiple := ← fields.withDefault 12 Document.bool? false
    lock := ← fields.withDefault 13 Document.bool? false }

/-- The chain of orders that a document stands for, with a bound on its length. -/
def chainOf? (dialect : Dialect) : Nat → Document → Option (OrderEntry × List OrderEntry)
  | 0, _ => none
  | bound + 1, d => do
    let fields ← d.fields? dialect true OrderEntry.fieldNames
    let order ← OrderEntry.ofFields? dialect fields
    match ← fields.optional 14 (chainOf? dialect bound) with
    | some (inner, bundles) => return (order, inner :: bundles)
    | none => return (order, [])

/-- The rule that a document stands for. A chain of orders is not longer than the document of its
first order is deep. -/
def RuleEntry.ofDocument? (dialect : Dialect) (d : Document) : Option RuleEntry := do
  let fields ← d.fields? dialect false ["name", "triggers", "order"]
  let name ← fields.required 0 Document.text?
  let triggers ← fields.withDefault 1 (Document.list? (conditionsOf? dialect)) []
  let (order, bundles) ← fields.required 2 fun d => chainOf? dialect d.depth d
  return ⟨name, triggers, order, bundles⟩

/-- The strategy that a document stands for. -/
def File.ofDocument? (dialect : Dialect) (d : Document) : Option File := do
  let fields ← d.fields? dialect false ["name", "rules"]
  return {
    name := ← fields.withDefault 0 Document.text? ""
    rules := ← fields.withDefault 1 (Document.list? (RuleEntry.ofDocument? dialect)) [] }

/-- The strategy that a TOML text says. -/
def File.ofToml (text : String) : Except Error File :=
  match (Toml.parse text).bind (File.ofDocument? .toml) with
  | some file => .ok file
  | none => .error .toml

end Strategy

end Skirmish
