import Skirmish.Session.Basic

/-!
# Playing a tick

A tick has two phases. First every agent that is idle when the tick starts runs the order that
follows for it, or else the one that it falls back on; then every rule that fires runs its order.
Orders of the second phase see the commands of the first. `Session.playTick` lists all runs of a
tick, and the report of a tick is counted from them.
-/

namespace Skirmish

/-- What happened in a tick. -/
structure StepReport where
  gameLoop : UInt64
  /-- The number of idle agents that had an order to run. -/
  idleProcessed : Nat
  /-- The number of rules that fired. -/
  rulesFired : Nat
  /-- The number of runs that did something. -/
  ordersSucceeded : Nat
  /-- The number of commands that were sent. -/
  commandsIssued : Nat
deriving DecidableEq, Repr

namespace Session

/-! ## The two phases -/

/-- Run the order that an idle agent has coming up, if it has one. -/
def runIdle (snapshot : Snapshot) (session : Session) (tag : UnitTag) : List Run × Session :=
  match session.roster.get? tag with
  | none => ([], session)
  | some agent =>
    match agent.upcoming with
    | none => ([], session)
    | some id =>
      -- What follows is used up before it runs, so that its order can say what follows next.
      let (run, session) :=
        (session.modifyAgent tag (·.withoutFollowUp)).run snapshot id (some tag)
      ([run], session)

/-- Run the orders of several idle agents. -/
def runAllIdle (snapshot : Snapshot) : List UnitTag → Session → List Run × Session
  | [], session => ([], session)
  | tag :: tags, session =>
    let (runs, session) := session.runIdle snapshot tag
    let (others, session) := runAllIdle snapshot tags session
    (runs ++ others, session)

/-- Run the orders of several rules. -/
def runRules (snapshot : Snapshot) : List OrderId → Session → List Run × Session
  | [], session => ([], session)
  | id :: ids, session =>
    let (run, session) := session.run snapshot id none
    let (others, session) := runRules snapshot ids session
    (run :: others, session)

/-- The orders of the rules that fire. -/
def firing (session : Session) (snapshot : Snapshot) : List OrderId :=
  match session.strategy with
  | some rules => rules.firing snapshot
  | none => []

/-- The runs of both phases of a tick, and the session after them with the commands not yet sent. -/
structure Tick where
  idle : List Run
  rules : List Run
  session : Session

/-- Play a tick up to the sending of its commands. -/
def playTick (session : Session) (snapshot : Snapshot) : Tick :=
  let session := { session with roster := session.roster.syncPositions snapshot }
  -- No run makes an agent idle, so the agents that are idle now are all there will be.
  let (idle, session) := runAllIdle snapshot session.roster.idle session
  let (rules, session) := runRules snapshot (session.firing snapshot) session
  ⟨idle, rules, session⟩

/-! ## The tick -/

/-- The report of a tick in which so many commands were sent. -/
def Tick.report (tick : Tick) (snapshot : Snapshot) (commands : Nat) : StepReport where
  gameLoop := snapshot.gameLoop
  idleProcessed := tick.idle.length
  rulesFired := tick.rules.length
  ordersSucceeded := (tick.idle ++ tick.rules).countP (·.issued)
  commandsIssued := commands

/-- Play a tick. -/
def step (session : Session) (snapshot : Snapshot) : Reply StepReport :=
  let tick := session.playTick snapshot
  let reply := tick.session.flush
  ⟨tick.report snapshot reply.value, reply.sent, reply.session⟩

end Session

/-- The document of a report. -/
def StepReport.toDocument (report : StepReport) : Document := .record [
  ("game_loop", .integer report.gameLoop.toNat),
  ("idle_processed", .integer report.idleProcessed),
  ("rules_fired", .integer report.rulesFired),
  ("orders_succeeded", .integer report.ordersSucceeded),
  ("commands_issued", .integer report.commandsIssued)]

end Skirmish
