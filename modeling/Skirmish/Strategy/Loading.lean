import Skirmish.Order.Book
import Skirmish.Strategy.File
import Skirmish.Strategy.Rule

/-!
# Making a strategy of a file

`File.build` makes the rules and the orders of a file. It goes through the rules in the order of the
file; of each rule it makes the order, then the orders that follow from the outside in, and then the
conditions. It stops at the first fault, and since nothing is stored before all of the file is made,
a faulty file leaves the order book as it was. The numbers of the orders that were made until then
are used up.

Orders get their numbers from the outside in, and they are stored from the inside out.
-/

namespace Skirmish.Strategy

/-! ## References -/

/-- The unit type that a reference stands for. -/
def Reference.unitType : Reference → Except Error UnitType
  | .code number => .ok ⟨number⟩
  | .named text =>
    match UnitType.byName text with
    | some type => .ok type
    | none => .error (.strategy (.unknownUnitType text))

/-- The ability that a reference stands for. -/
def Reference.ability : Reference → Except Error Ability
  | .code number => .ok ⟨number⟩
  | .named text =>
    match Ability.byName text with
    | some ability => .ok ability
    | none => .error (.strategy (.unknownAbility text))

/-! ## Conditions -/

/-- The condition of an entry. Only a condition that counts units looks at more than the value. -/
def ConditionEntry.build (rule : String) (entry : ConditionEntry) : Except Error Condition :=
  if entry.kind.metric.countsUnits then
    match entry.unitType with
    | none => .error (.strategy (.conditionNeedsUnitType rule entry.kind))
    | some reference => do
      let type ← reference.unitType
      if entry.kind.metric.isScoped then
        match entry.center, entry.radius with
        | some center, some radius =>
          return .unitCountNear entry.kind.bound entry.value type center radius
        | _, _ => .error (.strategy (.conditionNeedsDisk rule entry.kind))
      else
        return .unitCount entry.kind.bound entry.value type
  else .ok (.ofKind entry.kind entry.value)

/-! ## Orders -/

/-- A field that an order needs. -/
def need {α : Type} (rule : String) (field : OrderField) : Option α → Except Error α
  | some value => .ok value
  | none => .error (.strategy (.orderNeeds rule field))

namespace OrderEntry

variable (rule : String) (entry : OrderEntry)

/-- The assignee of an entry. -/
def buildAssignee : Except Error Assignee :=
  match entry.assignee with
  | .fallback => .ok .fallback
  | .unitType => do
    let reference ← need rule .unitType entry.unitType
    return .unitType (← reference.unitType)
  | .flags => .ok (.flags (.ofList entry.flags))
  | .group => return .group (← need rule .group entry.group)

/-- The action of an entry. -/
def buildAction : Except Error Action :=
  match entry.action with
  | .simple => .ok .simple
  | .exactLocation => return .exactLocation (← need rule .location entry.location)
  | .nearLocation => return .nearLocation (← need rule .location entry.location)
  | .harvestMineralsNear => return .harvestMineralsNear (← need rule .location entry.location)
  | .harvestGasNear => return .harvestGasNear (← need rule .location entry.location)
  | .targetUnit => do
    match ← need rule .target entry.target with
    | .unit tag => return .targetUnit (.unit tag)
    | .ofType reference => return .targetUnit (.ofType (← reference.unitType))
    | .storedType name => return .targetUnit (.storedType name)
  | .groupEdit => return .groupEdit (← need rule .group entry.group) (entry.edit.getD .add)

/-- The ability of an action that names none. -/
def impliedAbility : ActionKind → Option Ability
  | .harvestMineralsNear | .groupEdit => some .smart
  | .harvestGasNear => some .harvestGather
  | _ => none

/-- The ability of an entry. -/
def buildAbility : Except Error Ability :=
  match entry.ability with
  | some reference => reference.ability
  | none => need rule .ability (impliedAbility entry.action)

/-- The intent of an entry, without the order that follows. -/
def build (defaultRadius : Number.Single) : Except Error Intent := do
  let assignee ← entry.buildAssignee rule
  let action ← entry.buildAction rule
  let ability ← entry.buildAbility rule
  let intent ← Intent.pair assignee action ability
  return {
    intent with
    proximity := entry.radius.getD defaultRadius
    scope := entry.assigneeLocation.map fun place =>
      ⟨place, entry.assigneeRadius.getD defaultRadius⟩
    multiplicity := if entry.allowMultiple then .allowMultiple else .exclusive
    isLocked := entry.lock }

end OrderEntry

/-- The orders of a chain, from the outside in, and the next free number. Every order but the last
is followed by the one after it. -/
def buildChain (rule : String) (defaultRadius : Number.Single) :
    List OrderEntry → OrderId → Except Error (List Order) × OrderId
  | [], next => (.ok [], next)
  | entry :: bundles, next =>
    match entry.build rule defaultRadius with
    | .error e => (.error e, next)
    | .ok intent =>
      -- The order has its number before those that follow it are looked at.
      match buildChain rule defaultRadius bundles next.next with
      | (.error e, free) => (.error e, free)
      | (.ok inner, free) =>
        let followUp := inner.head?.map (·.id)
        (.ok (.issue next { intent with followUp } :: inner), free)

/-! ## Rules and files -/

/-- The rule of an entry with its orders, from the inside out, and the next free number. -/
def RuleEntry.build (defaultRadius : Number.Single) (entry : RuleEntry) (next : OrderId) :
    Except Error (Rule × List Order) × OrderId :=
  match buildChain entry.name defaultRadius (entry.order :: entry.bundles) next with
  | (.error e, free) => (.error e, free)
  | (.ok chain, free) =>
    match entry.triggers.mapM fun conditions => conditions.mapM (·.build entry.name) with
    | .error e => (.error e, free)
    | .ok triggers => (.ok (⟨entry.name, next, triggers.map Trigger.mk⟩, chain.reverse), free)

/-- The rules of several entries with all their orders, and the next free number. -/
def buildRules (defaultRadius : Number.Single) :
    List RuleEntry → OrderId → Except Error (List Rule × List Order) × OrderId
  | [], next => (.ok ([], []), next)
  | entry :: entries, next =>
    match entry.build defaultRadius next with
    | (.error e, free) => (.error e, free)
    | (.ok (rule, orders), free) =>
      match buildRules defaultRadius entries free with
      | (.error e, free) => (.error e, free)
      | (.ok (rules, others), free) => (.ok (rule :: rules, orders ++ others), free)

/-- Store several orders, one after the other. -/
def storeAll (book : OrderBook) (orders : List Order) : OrderBook := orders.foldl (·.store) book

/-- The strategy of a file, the book with its orders, and the next free number. -/
def File.build (defaultRadius : Number.Single) (file : File) (book : OrderBook) (next : OrderId) :
    Except Error (RuleSet × OrderBook) × OrderId :=
  match buildRules defaultRadius file.rules next with
  | (.error e, free) => (.error e, free)
  | (.ok (rules, orders), free) => (.ok (⟨file.name, rules⟩, storeAll book orders), free)

end Skirmish.Strategy
