import Skirmish.Session.Basic

/-!
# Following single units

The callbacks by which the simulation tells a session what happens to units: the game starts, a unit
appears, a building is finished, a unit is hurt, has nothing to do, or is gone.
-/

namespace Skirmish

/-- The role of a unit. Townhalls can fly, so their type decides before anything else does. -/
def UnitView.category (unit : UnitView) : Category :=
  if unit.unitType.isTownhall then .townhall
  else if unit.isStructure then .building
  else if unit.unitType.isWorker then .worker
  else .army

/-- A new agent for a unit. -/
def Agent.ofUnit (unit : UnitView) : Agent :=
  let agent := Agent.recruit unit.unitType unit.category unit.position
  if unit.isFlying then agent.gain .flying else agent

namespace Session

/-- Make the order to gather minerals near a place that a worker falls back on. -/
def makeMining (session : Session) (place : Place) : OrderId × Session :=
  session.make ((Intent.harvestMineralsNear place).withRadius session.config.defaultRadius)

/-- Put the agent of a unit on the roster. A worker falls back on gathering minerals near a
place. -/
def recruit (session : Session) (unit : UnitView) (agent : Agent) (place : Place) : Session :=
  if unit.category = .worker then
    let (id, session) := session.makeMining place
    session.enlist unit.tag (agent.fallBackOn id)
  else session.enlist unit.tag agent

/-! ## The start of the game -/

/-- Put a unit that is there from the start on the roster, unless it is on it. -/
def welcome (session : Session) (unit : UnitView) : Session :=
  if session.roster.contains unit.tag then session
  else session.recruit unit (.ofUnit unit) .startLocation

/-- The game starts: all our units go on the roster, and the start base is taken. -/
def start (session : Session) (snapshot : Snapshot) : Reply Nat :=
  let session := snapshot.ownUnits.foldl welcome session
  flush { session with layout := session.layout.activate session.layout.startBase.toNat }

/-! ## New units -/

/-- Release the nearest agent that is placing a gas structure: it stops and is free again. -/
def releaseGasBuilder (session : Session) (around : Point) : Session :=
  match nearestTo around (session.roster.candidates (·.can .placingGas)) with
  | none => session
  | some tag =>
    (session.modifyAgent tag (·.lose .placingGas)).issue (.single tag .stop .nothing)

/-- The base nearest to a position, with its index. -/
def baseNear? (session : Session) (position : Point) : Option (Base × UInt64) := do
  let index := UInt64.ofNat (← session.layout.nearestBase? position)
  return (← session.layout.base? index, index)

/-- Where a new unit is posted: at home, army units at a random point around it. -/
def post (session : Session) (category : Category) (home : Point) : Point × Session :=
  match category with
  | .army =>
    let (point, random) := session.random.pointInDisk home session.config.armySpawnJitter
    (point, { session with random })
  | _ => (home, session)

/-- Put a unit that has just appeared on the roster. Its home is the nearest base. -/
def register (session : Session) (unit : UnitView) : Session :=
  let (home, place) : Point × Place :=
    match session.baseNear? unit.position with
    | some (base, index) => (base.townhall, .townhall index)
    | none => (unit.position, .literal unit.position)
  let (post, session) := session.post unit.category home
  session.recruit unit { Agent.ofUnit unit with home, post } place

/-- A unit has appeared. Only our own units that are not on the roster count. A gas structure that
leaves its builder standing releases it. -/
def created (session : Session) (unit : UnitView) : Reply Nat :=
  if !unit.isOwn || session.roster.contains unit.tag then session.silent 0
  else
    let session :=
      if unit.category = .building && unit.unitType.strandsBuilder then
        session.releaseGasBuilder unit.position
      else session
    (session.register unit).flush

/-! ## Finished buildings -/

/-- Send the nearest agent that gathers minerals to a gas structure; it falls back on gathering
there. If nobody gathers minerals nothing happens. -/
def sendGasWorker (session : Session) (site : UnitView) : Option Session :=
  let isMiner (agent : Agent) := agent.can .worker && agent.can .mineralGatherer
  match nearestTo site.position (session.roster.candidates isMiner) with
  | none => none
  | some tag =>
    -- The agent is still on the list of this order when it takes up the new one.
    let left := (session.roster.get? tag).bind (·.current)
    let intent := (Intent.harvestGasNear (.literal site.position)).withRadius
      session.config.defaultRadius
    let (gas, session) := session.make intent
    let session := session.modifyAgent tag fun agent =>
      (((agent.lose .mineralGatherer).gain .gasGatherer).fallBackOn gas).workOn gas
    let session := session.unassign left tag
    let session :=
      { session with book := { session.book with
          orders := session.book.orders.modify gas fun order => order.assign tag } }
    some (session.issue (.single tag .harvestGather (.unit site.tag)))

/-- Send up to so many agents to a gas structure, as long as there are some that gather minerals. -/
def sendGasWorkers (site : UnitView) : Nat → Session → Session
  | 0, session => session
  | count + 1, session =>
    match session.sendGasWorker site with
    | none => session
    | some session => sendGasWorkers site count session

/-- A building is finished. A townhall takes its base, a defense is known as one from now on, and a
gas structure gets its workers. Only a defense has to be on the roster. -/
def completed (session : Session) (unit : UnitView) : Reply (Except Error Nat) :=
  let session :=
    if unit.unitType.isTownhall then
      match session.layout.nearestBase? unit.position with
      | some index => { session with layout := session.layout.activate index }
      | none => session
    else session
  -- No townhall is a defense, so nothing has changed when the callback fails.
  if unit.unitType.isDefenseStructure && !session.roster.contains unit.tag then
    session.silent (.error (.agentNotFound unit.tag))
  else
    let session :=
      if unit.unitType.isDefenseStructure then
        session.modifyAgent unit.tag (·.gain .defense)
      else session
    let session :=
      if unit.unitType.isGasStructure then
        sendGasWorkers unit session.config.gasWorkersPerStructure.toNat session
      else session
    let reply := session.flush
    ⟨.ok reply.value, reply.sent, reply.session⟩

/-! ## Units that are hurt, idle or gone -/

/-- Whether a unit is to blink home. -/
def mustBlink (session : Session) (snapshot : Snapshot) (unit : UnitView) : Bool :=
  unit.unitType.canBlink && snapshot.hasUpgrade .blinkTech
    && decide (unit.healthFraction < session.config.blinkHealthFraction)
    && unit.available.contains .effectBlink

/-- A unit is hurt. If it is weak and can blink, it blinks to where we started. -/
def damaged (session : Session) (snapshot : Snapshot) (unit : UnitView) : Reply Nat :=
  if session.mustBlink snapshot unit then
    (session.issue
      (.single unit.tag .effectBlink (.point session.layout.startLocation))).flush
  else session.flush

/-- An agent has nothing to do. -/
def becameIdle (session : Session) (tag : UnitTag) : Reply (Except Error Unit) :=
  match session.roster.get? tag with
  | none => session.silent (.error (.agentNotFound tag))
  | some agent =>
    ((session.modifyAgent tag (·.rest)).unassign agent.current tag).silent (.ok ())

/-- A unit is gone. One of our own leaves its orders and the roster. -/
def destroyed (session : Session) (unit : UnitView) : Reply (Except Error Unit) :=
  if !unit.isOwn then session.silent (.ok ())
  else if !session.roster.contains unit.tag then
    session.silent (.error (.agentNotFound unit.tag))
  else
    silent (.ok ())
      { session with
        roster := session.roster.erase unit.tag
        book := session.book.release unit.tag }

end Session

end Skirmish
