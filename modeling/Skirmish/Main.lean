import Skirmish.CommandLine.Run

/-!
# The program

The program reads the files that its arguments name, runs the command, prints what comes of it, and
exits with the code of the outcome.
-/

namespace Skirmish.CommandLine

/-- The text of a file, if it can be read. -/
def readText (path : String) : IO (Option String) := do
  try
    return some (← IO.FS.readFile path)
  catch _ =>
    return none

end Skirmish.CommandLine

open Skirmish.CommandLine

/-- Run the command line. -/
def main (arguments : List String) : IO UInt32 := do
  let paths := match Invocation.ofArguments? arguments with
    | some invocation => invocation.files
    | none => []
  let texts ← paths.mapM fun path => return (path, ← readText path)
  let outcome := run (fun path => (texts.lookup path).join) arguments
  outcome.output.forM IO.println
  outcome.complaints.forM IO.eprintln
  return outcome.exitCode
