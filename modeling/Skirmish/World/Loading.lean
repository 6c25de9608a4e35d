import Skirmish.Document.Json.Parser
import Skirmish.Error
import Skirmish.World.Document

/-!
# Loading snapshots

A JSON text holds one snapshot, or a list of snapshots of successive ticks. A list of five or more
items may still be a single snapshot whose fields are given in their order; it is read as such only
if it is no list of snapshots.
-/

namespace Skirmish

/-- The snapshot that a JSON text says. -/
def Snapshot.ofJson (text : String) : Except Error Snapshot :=
  match (Json.parse text).bind (Snapshot.ofDocument? .json) with
  | some snapshot => .ok snapshot
  | none => .error .json

/-- The depth that the document of a text with several snapshots has to stay below. -/
def Snapshot.depthLimit : Nat := 128

/-- The snapshots of a JSON text. The whole text has to be readable, also where nothing is read
from it. -/
def Snapshot.allOfJson (text : String) : Except Error (List Snapshot) :=
  match Json.parse text with
  | none => .error .json
  | some d =>
    if d.isReadable && d.depth < depthLimit then
      match d.list? (ofDocument? .json) with
      | some snapshots => .ok snapshots
      | none =>
        match ofDocument? .json d with
        | some snapshot => .ok [snapshot]
        | none => .error .json
    else .error .json

end Skirmish
