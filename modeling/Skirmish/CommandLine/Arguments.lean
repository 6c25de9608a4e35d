/-!
# Arguments of the command line

The arguments name a command and then its options, each with a value. `Invocation.ofArguments?`
reads them from left to right and stops at the first one that is wrong or that asks for help.

The value of an option may stand behind an equals sign. An option is given at most once, and its
value is not empty; a value of its own does not start with a dash, unless it is a single one.
-/

namespace Skirmish.CommandLine

/-- What the command line asks for. -/
inductive Invocation where
  /-- List the rules of a strategy. -/
  | check (strategy : String)
  /-- Play recorded snapshots. -/
  | simulate (snapshot : String) (strategy locations config : Option String)
  /-- Show how the program is used. -/
  | help
deriving DecidableEq, Repr

/-- What the options of a command come to. -/
inductive Options where
  /-- The values by their options. -/
  | values (pairs : List (String × String))
  | help
  | wrong
deriving DecidableEq, Repr

namespace Options

/-- The options with one more in front. -/
def add (name value : String) : Options → Options
  | values pairs => values ((name, value) :: pairs)
  | help => help
  | wrong => wrong

end Options

/-- Whether a text begins with another one. -/
def startsWith (text beginning : String) : Bool := beginning.toList.isPrefixOf text.toList

/-- Whether an argument asks for help. -/
def asksForHelp (argument : String) : Bool := argument = "--help" || startsWith argument "-h"

/-- Whether an argument can be the value of the option before it. -/
def isValue (argument : String) : Bool :=
  argument ≠ "" && (argument = "-" || !startsWith argument "-")

/-- The name and the value of an option with an equals sign. -/
def split? (argument : String) : Option (String × String) :=
  match argument.toList.span (· ≠ '=') with
  | (name, _ :: value) => some (String.ofList name, String.ofList value)
  | (_, []) => none

/-- Read options, of which some can still be given. -/
def readOptions (unused : List String) : List String → Options
  | [] => .values []
  -- The mark that ends the options, behind which nothing may stand.
  | ["--"] => .values []
  | argument :: rest =>
    if asksForHelp argument then .help
    else if unused.contains argument then
      match rest with
      | value :: rest =>
        if isValue value then (readOptions (unused.erase argument) rest).add argument value
        else .wrong
      | [] => .wrong
    else
      match split? argument with
      | some (name, value) =>
        if unused.contains name && value ≠ "" then
          (readOptions (unused.erase name) rest).add name value
        else .wrong
      | none => .wrong

namespace Invocation

/-- The options of `check`. -/
def checkOptions : List String := ["--strategy"]

/-- The options of `simulate`. -/
def simulateOptions : List String := ["--snapshot", "--strategy", "--locations", "--config"]

/-- Listing the rules of a strategy, given the options. -/
def ofCheck? : Options → Option Invocation
  | .values pairs => (pairs.lookup "--strategy").map check
  | .help => some help
  | .wrong => none

/-- Playing snapshots, given the options. -/
def ofSimulate? : Options → Option Invocation
  | .values pairs => (pairs.lookup "--snapshot").map fun snapshot =>
    simulate snapshot (pairs.lookup "--strategy") (pairs.lookup "--locations")
      (pairs.lookup "--config")
  | .help => some help
  | .wrong => none

/-- What the arguments ask for, unless they are wrong. -/
def ofArguments? : List String → Option Invocation
  | "check" :: rest => ofCheck? (readOptions checkOptions rest)
  | "simulate" :: rest => ofSimulate? (readOptions simulateOptions rest)
  | ["help"] | ["help", "check"] | ["help", "simulate"] | ["help", "help"] => some help
  | argument :: _ => if asksForHelp argument then some help else none
  | [] => none

/-- The files that may be read. -/
def files : Invocation → List String
  | check strategy => [strategy]
  | simulate snapshot strategy locations config =>
    snapshot :: (strategy.toList ++ locations.toList ++ config.toList)
  | help => []

end Invocation

/-- How the program is used. -/
def usage : List String :=
  ["Validate strategies and replay snapshots through a session",
    "",
    "Usage:",
    "  check --strategy <FILE>",
    "  simulate --snapshot <FILE> [--strategy <FILE>] [--locations <FILE>] [--config <FILE>]"]

end Skirmish.CommandLine
