/-!
# Metrics and bounds

A condition of a strategy bounds a metric of the world from below or from above. The kind of a
condition is the metric together with the side of the bound.
-/

namespace Skirmish

/-- What a condition measures. -/
inductive Metric where
  | minerals
  | gas
  | time
  | food
  | foodCap
  /-- The food that is still free. -/
  | foodHeadroom
  /-- The number of our units of a type. -/
  | unitsOfType
  /-- The number of our units of a type in a disk. -/
  | unitsOfTypeNear
deriving DecidableEq, Repr, Inhabited

/-- The side on which a condition bounds its metric. -/
inductive Bound where
  | atLeast
  | atMost
deriving DecidableEq, Repr, Inhabited

/-- The kind of a condition. -/
structure ConditionKind where
  bound : Bound
  metric : Metric
deriving DecidableEq, Repr, Inhabited

namespace Metric

/-- Every metric. -/
def all : List Metric :=
  [minerals, gas, time, food, foodCap, foodHeadroom, unitsOfType, unitsOfTypeNear]

/-- The name of a metric in a document. -/
def name : Metric → String
  | minerals => "MINERALS"
  | gas => "GAS"
  | time => "TIME"
  | food => "FOOD"
  | foodCap => "FOOD_CAP"
  | foodHeadroom => "FOOD_HEADROOM"
  | unitsOfType => "UNIT_OF_TYPE"
  | unitsOfTypeNear => "UNIT_OF_TYPE_NEAR_LOCATION"

/-- The word for a metric in a message. -/
def title : Metric → String
  | minerals => "Minerals"
  | gas => "Gas"
  | time => "Time"
  | food => "Food"
  | foodCap => "FoodCap"
  | foodHeadroom => "FoodHeadroom"
  | unitsOfType => "UnitOfType"
  | unitsOfTypeNear => "UnitOfTypeNearLocation"

/-- Whether the metric is a number of units. -/
def countsUnits : Metric → Bool
  | unitsOfType | unitsOfTypeNear => true
  | _ => false

/-- Whether the metric is a number of units in a disk. -/
def isScoped : Metric → Bool
  | unitsOfTypeNear => true
  | _ => false

end Metric

namespace ConditionKind

/-- The name of a kind in a document. -/
def name (kind : ConditionKind) : String :=
  match kind.bound with
  | .atLeast => "MIN_" ++ kind.metric.name
  | .atMost => "MAX_" ++ kind.metric.name

/-- The word for a kind in a message. -/
def title (kind : ConditionKind) : String :=
  match kind.bound with
  | .atLeast => "Min" ++ kind.metric.title
  | .atMost => "Max" ++ kind.metric.title

/-- Every kind. -/
def all : List ConditionKind :=
  Metric.all.flatMap fun metric => [⟨.atLeast, metric⟩, ⟨.atMost, metric⟩]

/-- The kinds by their names. -/
def names : List (String × ConditionKind) := all.map fun kind => (kind.name, kind)

end ConditionKind

end Skirmish
