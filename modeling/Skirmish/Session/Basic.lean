import Skirmish.Config
import Skirmish.Map.Layout
import Skirmish.Order.Book
import Skirmish.Order.Execution
import Skirmish.Strategy.Rule

/-!
# Sessions

A session plays one game. It owns the roster, the order book, the strategy and all else that lasts
from one tick to the next, and the simulation drives it through callbacks:

* `Session.step` in `Skirmish.Session.Step` plays a tick;
* the callbacks of `Skirmish.Session.Events` follow single units;
* `Skirmish.Session.Strategy` gives the session its strategy.

A callback replies with a value, with the commands that it sends, and with the session after it.
Commands are collected in the outbox while the callback decides on them, and sent at its end.
-/

namespace Skirmish

/-- Everything that lasts from one tick of a game to the next. -/
structure Session where
  config : Config
  roster : Roster
  book : OrderBook
  strategy : Option RuleSet
  layout : Layout
  blackboard : Blackboard
  random : Random
  outbox : Outbox
  /-- The id of the order that is made next. -/
  nextId : OrderId

namespace Session

/-- The session before anything has happened. -/
def new (config : Config) (layout : Layout) : Session where
  config := config
  roster := .empty
  book := .empty
  strategy := none
  layout := layout
  blackboard := .empty
  random := .ofSeed config.seed
  outbox := []
  nextId := .first

/-- What comes of a callback. -/
structure Reply (α : Type) where
  value : α
  /-- The commands that are sent. -/
  sent : List Command
  session : Session

/-- The reply that sends nothing. -/
def silent {α : Type} (value : α) (session : Session) : Reply α := ⟨value, [], session⟩

/-- Send the commands in the outbox, and say how many they are. -/
def flush (session : Session) : Reply Nat :=
  ⟨session.outbox.length, session.outbox, { session with outbox := [] }⟩

/-- Issue one more command. -/
def issue (session : Session) (command : Command) : Session :=
  { session with outbox := session.outbox ++ [command] }

/-! ## Agents and orders -/

/-- Put an agent on the roster. -/
def enlist (session : Session) (tag : UnitTag) (agent : Agent) : Session :=
  { session with roster := session.roster.enlist tag agent }

/-- Change the agent with a tag, if there is one. -/
def modifyAgent (session : Session) (tag : UnitTag) (change : Agent → Agent) : Session :=
  { session with roster := session.roster.modify tag change }

/-- Make and store an order. -/
def make (session : Session) (intent : Intent) : OrderId × Session :=
  (session.nextId,
    { session with
      book := session.book.store (.issue session.nextId intent)
      nextId := session.nextId.next })

/-- Take an agent off an order, if there is one. -/
def unassign (session : Session) (order : Option OrderId) (tag : UnitTag) : Session :=
  match order with
  | some id => { session with book := session.book.unassign id tag }
  | none => session

/-! ## Running an order -/

/-- What an order that is run now depends on. -/
def situation (session : Session) (snapshot : Snapshot) : Situation where
  snapshot := snapshot
  layout := session.layout
  blackboard := session.blackboard
  claimRadius := session.config.geyserClaimRadius

/-- What an order that is run now can change. -/
def dispatch (session : Session) : Dispatch where
  roster := session.roster
  outbox := session.outbox
  random := session.random
  released := []

/-- Take over what an order has changed, and take agents off the orders that they have left. -/
def absorb (session : Session) (execution : Execution) : Session :=
  let dispatch := execution.dispatch
  { session with
    roster := dispatch.roster
    outbox := dispatch.outbox
    random := dispatch.random
    book := dispatch.released.foldl (fun book release => book.unassign release.1 release.2)
      (session.book.replace execution.order) }

/-- One run of an order: for one agent, or for the units that the order addresses by itself. -/
structure Run where
  order : OrderId
  agent : Option UnitTag
  /-- Whether a command was issued or a membership changed. -/
  issued : Bool
deriving DecidableEq, Repr

/-- Run a stored order. An id without an order is passed over. -/
def run (session : Session) (snapshot : Snapshot) (id : OrderId) (agent : Option UnitTag) :
    Run × Session :=
  -- A strategy may name orders that nobody has stored.
  match session.book.orders.get? id with
  | none => (⟨id, agent, false⟩, session)
  | some order =>
    let situation := session.situation snapshot
    let execution :=
      match agent with
      | some tag => order.executeFor situation session.dispatch tag
      | none => order.execute situation session.dispatch
    (⟨id, agent, execution.issued⟩, session.absorb execution)

end Session

end Skirmish
