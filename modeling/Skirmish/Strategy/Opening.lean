import Skirmish.Strategy.Loading

/-!
# The gateway opening

A strategy that needs no file: workers, pylons, one gateway and one assimilator, then zealots. The
zealots gather at the first defend point of the first base and go to the proxy location once there
are eight of them. The worker that places the first pylon goes back to its minerals afterwards.

The orders are numbered in one order and stored in another: the way back is numbered before the
pylon that it follows, and stored after it.
-/

namespace Skirmish.Strategy.Opening

/-- The number of orders of the opening. -/
def orderCount : Nat := 10

/-- The id of an order of the opening by its position, given the first id. -/
def idAt (first : OrderId) : Nat → OrderId
  | 0 => first
  | position + 1 => (idAt first position).next

/-- Where pylons and gateways are placed. -/
def mainBuildArea : Place := .buildArea 0 0

/-- Those who gather and push. -/
def army : KeySet Capability := .ofList [.army]

/-- An intent of which any number of units may be using the ability. -/
def repeated (intent : Intent) : Intent := { intent with multiplicity := .allowMultiple }

/-- The orders of the opening, in the order in which they are stored. -/
def orders (first : OrderId) : List Order :=
  let id := idAt first
  let mining : Intent := .harvestMineralsNear .startLocation
  let probes : Intent := .unitTypeSimple .protossNexus .trainProbe
  let firstPylon : Intent := .unitTypeNear .protossProbe .buildPylon mainBuildArea 3
  let supply : Intent := .unitTypeNear .protossProbe .buildPylon .startLocation 10
  let gateway : Intent := .unitTypeNear .protossProbe .buildGateway mainBuildArea 5
  let assimilator : Intent := .unitTypeNear .protossProbe .buildAssimilator .startLocation 8
  let chrono : Intent :=
    .unitTypeOn .protossNexus .effectChronoBoostEnergyCost (.ofType .protossGateway)
  let zealots : Intent := .unitTypeSimple .protossGateway .trainZealot
  let gather : Intent := .flagsNear army .attack (.defendPoint 0 0) 4
  let push : Intent := .flagsNear army .attack .proxyLocation 6
  [.issue (id 1) probes,
    -- The pylon refers to the way back, which is stored after it.
    .issue (id 2) { firstPylon with followUp := some (id 0) },
    .issue (id 0) mining,
    .issue (id 3) supply,
    .issue (id 4) gateway,
    .issue (id 5) assimilator,
    .issue (id 6) chrono,
    .issue (id 7) (repeated zealots),
    .issue (id 8) (repeated gather),
    .issue (id 9) { repeated push with isLocked := true }]

/-- The condition that a metric is at least a value. -/
def atLeast (metric : Metric) (value : Int64) : Condition := .ofKind ⟨.atLeast, metric⟩ value

/-- The condition that a metric is at most a value. -/
def atMost (metric : Metric) (value : Int64) : Condition := .ofKind ⟨.atMost, metric⟩ value

/-- The condition that we have at least so many units of a type. -/
def haveAtLeast (value : Int64) (type : UnitType) : Condition := .unitCount .atLeast value type

/-- The condition that we have at most so many units of a type. -/
def haveAtMost (value : Int64) (type : UnitType) : Condition := .unitCount .atMost value type

/-- The rules of the opening. -/
def rules (first : OrderId) : List Rule :=
  let rule (name : String) (position : Nat) (conditions : List Condition) : Rule :=
    ⟨name, idAt first position, [⟨conditions⟩]⟩
  [rule "train probes" 1
      [atLeast .minerals 50, atLeast .foodHeadroom 1, haveAtMost 21 .protossProbe],
    rule "first pylon" 2
      [atLeast .minerals 100, atLeast .food 13, haveAtMost 0 .protossPylon],
    rule "supply pylon" 3
      [atLeast .minerals 100, atMost .foodHeadroom 2, haveAtLeast 1 .protossPylon],
    rule "gateway" 4
      [atLeast .minerals 150, haveAtLeast 1 .protossPylon, haveAtMost 0 .protossGateway],
    rule "assimilator" 5
      [atLeast .minerals 75, haveAtLeast 1 .protossGateway, haveAtMost 0 .protossAssimilator],
    rule "chrono gateway" 6
      [haveAtLeast 1 .protossGateway, atLeast .time 2000],
    rule "zealots" 7
      [atLeast .minerals 100, atLeast .foodHeadroom 2],
    rule "gather army" 8
      [haveAtLeast 1 .protossZealot, haveAtMost 7 .protossZealot],
    rule "push" 9
      [haveAtLeast 8 .protossZealot]]

/-- The opening, the book with its orders, and the next free number. -/
def build (book : OrderBook) (next : OrderId) : RuleSet × OrderBook × OrderId :=
  (⟨"protoss_gateway_opening", rules next⟩, storeAll book (orders next), idAt next orderCount)

end Skirmish.Strategy.Opening
