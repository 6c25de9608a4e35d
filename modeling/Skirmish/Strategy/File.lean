import Skirmish.Order.Basic
import Skirmish.Strategy.Condition

/-!
# Strategy files

What a strategy file says, before anything is made of it. Unit types and abilities are written by
name or by number, and which of the other fields matter depends on the kinds of the assignee and of
the action.

An order can carry an order that follows it, and that one another, and so on. Such a chain is the
list of its links, from the outermost on.
-/

namespace Skirmish.Strategy

/-- A unit type or an ability as it is written. -/
inductive Reference where
  | code (number : UInt32)
  | named (text : String)
deriving DecidableEq, Repr, Inhabited

/-- A target as it is written. -/
inductive TargetEntry where
  | unit (tag : UnitTag)
  | ofType (type : Reference)
  | storedType (name : String)
deriving DecidableEq, Repr, Inhabited

/-- A condition as it is written. -/
structure ConditionEntry where
  kind : ConditionKind
  value : Int64
  unitType : Option Reference
  center : Option Point
  radius : Option Number.Single
deriving DecidableEq, Repr

/-- One link of a chain of orders as it is written. -/
structure OrderEntry where
  assignee : AssigneeKind
  action : ActionKind
  ability : Option Reference
  unitType : Option Reference
  flags : List Capability
  group : Option String
  edit : Option GroupEdit
  location : Option Place
  radius : Option Number.Single
  target : Option TargetEntry
  assigneeLocation : Option Place
  assigneeRadius : Option Number.Single
  allowMultiple : Bool
  lock : Bool
deriving DecidableEq, Repr

/-- A rule as it is written. -/
structure RuleEntry where
  name : String
  /-- The conditions of each trigger. -/
  triggers : List (List ConditionEntry)
  /-- The order of the rule. -/
  order : OrderEntry
  /-- The orders that follow, each the one before it. -/
  bundles : List OrderEntry
deriving DecidableEq, Repr

/-- A strategy as it is written. -/
structure File where
  name : String
  rules : List RuleEntry
deriving DecidableEq, Repr

end Skirmish.Strategy
