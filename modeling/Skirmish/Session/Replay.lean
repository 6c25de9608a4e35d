import Skirmish.Document.Json.Printer
import Skirmish.Session.Events
import Skirmish.Session.Step
import Skirmish.World.Document

/-!
# Replaying recorded snapshots

A session can be played against snapshots that were recorded before: the game starts with the first
of them, and then every snapshot is a tick.
-/

namespace Skirmish

/-- A tick of a replay. -/
structure ReplayedTick where
  report : StepReport
  commands : List Command

namespace ReplayedTick

/-- The document of a tick. -/
def toDocument (tick : ReplayedTick) : Document := .record [
  ("report", tick.report.toDocument),
  ("commands", .list (tick.commands.map Command.toDocument))]

/-- A tick as a line of JSON. -/
def line (tick : ReplayedTick) : String := Json.render tick.toDocument

end ReplayedTick

/-- The layout of a map of which only the first snapshot is known: one base at our first townhall,
or at the origin if there is none. -/
def Snapshot.impliedLayout (snapshot : Snapshot) : Layout :=
  match snapshot.ownUnits.find? (·.unitType.isTownhall) with
  | some townhall => .singleBase townhall.position
  | none => .singleBase .origin

namespace Session

/-- Play a tick for every snapshot. The commands `pending` have been sent before and go with the
first tick. -/
def playAll : List Snapshot → List Command → Session → List ReplayedTick
  | [], _, _ => []
  | snapshot :: snapshots, pending, session =>
    let reply := session.step snapshot
    ⟨reply.value, pending ++ reply.sent⟩ :: playAll snapshots [] reply.session

/-- Play a whole game. -/
def replay (session : Session) (snapshots : List Snapshot) : List ReplayedTick :=
  match snapshots with
  | [] => []
  | first :: _ =>
    let reply := session.start first
    playAll snapshots reply.sent reply.session

end Session

end Skirmish
