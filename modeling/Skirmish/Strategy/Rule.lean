import Skirmish.Order.OrderId
import Skirmish.Strategy.Condition

/-!
# Rules

A rule fires its order on every tick on which one of its triggers holds, and a trigger holds if all
its conditions are met. So a rule without triggers never fires, and a trigger without conditions
always holds. A rule does not rest after it has fired.
-/

namespace Skirmish

/-- Conditions that have to be met together. -/
structure Trigger where
  conditions : List Condition
deriving DecidableEq, Repr

/-- Whether all conditions of a trigger are met. -/
def Trigger.holds (trigger : Trigger) (snapshot : Snapshot) : Bool :=
  trigger.conditions.all (·.isMet snapshot)

/-- An order and when it is to run. -/
structure Rule where
  name : String
  order : OrderId
  triggers : List Trigger
deriving DecidableEq, Repr

/-- A rule that never fires. -/
def Rule.inert (name : String) (order : OrderId) : Rule := ⟨name, order, []⟩

/-- The rule with one more trigger. -/
def Rule.addTrigger (rule : Rule) (trigger : Trigger) : Rule :=
  { rule with triggers := rule.triggers ++ [trigger] }

/-- The rule with a trigger instead of all others. -/
def Rule.setTrigger (rule : Rule) (trigger : Trigger) : Rule := { rule with triggers := [trigger] }

/-- Whether a trigger of a rule holds. -/
def Rule.fires (rule : Rule) (snapshot : Snapshot) : Bool :=
  rule.triggers.any (·.holds snapshot)

/-- The rules of a strategy, in the order in which they were declared. -/
structure RuleSet where
  name : String
  rules : List Rule
deriving DecidableEq, Repr

/-- The orders of the rules that fire, in the order of the rules. -/
def RuleSet.firing (set : RuleSet) (snapshot : Snapshot) : List OrderId :=
  (set.rules.filter (·.fires snapshot)).map (·.order)

end Skirmish
