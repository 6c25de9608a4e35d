import Skirmish.CommandLine.Arguments
import Skirmish.Map.Loading
import Skirmish.Session.Replay
import Skirmish.Session.Strategy
import Skirmish.World.Loading

/-!
# Running the command line

What a command prints depends on its arguments and on the texts of the files that they name. The
files are given as a function, so nothing in this module reads any: a file without a text is one
that cannot be read.
-/

namespace Skirmish.CommandLine

/-- The texts of the files. -/
abbrev Files := String → Option String

/-- What comes of a command. -/
inductive Outcome where
  /-- The command has printed some lines. -/
  | done (lines : List String)
  | failed (error : Error)
  /-- The arguments are wrong. -/
  | misused

/-- The text of a file. -/
def Files.read (files : Files) (path : String) : Except Error String :=
  match files path with
  | some text => .ok text
  | none => .error .file

/-- The line of a rule. -/
def ruleLine (rule : Rule) : String :=
  s!"  {rule.name} -> {rule.order.text} ({rule.triggers.length} triggers)"

/-- The lines of a strategy and of the number of orders that it needs. -/
def strategyLines (rules : RuleSet) (orders : Nat) : List String :=
  s!"{rules.name}: {rules.rules.length} rules, {orders} orders" :: rules.rules.map ruleLine

/-- Read a strategy and list its rules. -/
def check (files : Files) (path : String) : Except Error (List String) := do
  let text ← files.read path
  let (rules, book) ← (Strategy.load Config.standard.defaultRadius text .empty .first).1
  return strategyLines rules book.orders.size

/-- The configuration of a file, or else the standard one. -/
def readConfig (files : Files) : Option String → Except Error Config
  | some path => do Config.ofToml (← files.read path)
  | none => .ok .standard

/-- The layout of a file, or else the one that a snapshot implies. -/
def readLayout (files : Files) (first : Snapshot) : Option String → Except Error Layout
  | some path => do Layout.ofToml (← files.read path)
  | none => .ok first.impliedLayout

/-- The session with the strategy of a file, or else with the gateway opening. -/
def prepare (files : Files) (session : Session) : Option String → Except Error Session
  | some path => do
    let text ← files.read path
    let (loaded, session) := session.loadStrategy text
    let _ ← loaded
    return session
  | none => .ok session.loadOpening.2

/-- Play recorded snapshots, and list what happened in each tick. Without snapshots nothing else is
read. -/
def simulate (files : Files) (snapshot : String) (strategy locations config : Option String) :
    Except Error (List String) := do
  -- The snapshots are read before the other files, and their faults are reported first.
  let snapshots ← Snapshot.allOfJson (← files.read snapshot)
  match snapshots with
  | [] => return []
  | first :: _ =>
    let config ← readConfig files config
    let layout ← readLayout files first locations
    let session ← prepare files (.new config layout) strategy
    return (session.replay snapshots).map (·.line)

/-- The outcome of a result. -/
def Outcome.ofExcept : Except Error (List String) → Outcome
  | .ok lines => done lines
  | .error e => failed e

/-- Run a command. -/
def run (files : Files) (arguments : List String) : Outcome :=
  match Invocation.ofArguments? arguments with
  | some (.check strategy) => .ofExcept (check files strategy)
  | some (.simulate snapshot strategy locations config) =>
    .ofExcept (simulate files snapshot strategy locations config)
  | some .help => .done usage
  | none => .misused

namespace Outcome

/-- The exit code of an outcome. -/
def exitCode : Outcome → UInt32
  | done _ => 0
  | failed _ => 1
  | misused => 2

/-- The lines that are printed as output. -/
def output : Outcome → List String
  | done lines => lines
  | failed _ | misused => []

/-- The lines that are printed as complaints. -/
def complaints : Outcome → List String
  | done _ => []
  | failed e => [s!"error: {e.message}"]
  | misused => usage

end Outcome

end Skirmish.CommandLine
