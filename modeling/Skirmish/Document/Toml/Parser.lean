import Skirmish.Document.Toml.DateTime
import Skirmish.Document.Toml.Literal
import Skirmish.Document.Toml.Table

/-!
# Reading TOML

A TOML text is a list of lines of three kinds: one gives a value to a key, one opens a table, and
one adds a table to a list of tables. `readLines` finds the lines, and `parse` fills the tables with
them.

As for JSON, the number of steps down into a value is bounded by the length of the text. How deep
values may be nested, and how many parts a dotted key may have, is limited besides.
-/

namespace Skirmish.Toml

/-- A number that dotted keys and nested values have to stay below. -/
def nestingLimit : Nat := 80

/-- The parts of a dotted key, with blanks around each. The bound is on their number. -/
def readPath : Nat → List Char → Option (List String × List Char)
  | 0, _ => none
  | bound + 1, cs => do
    let (key, rest) ← readKey (skipBlanks cs)
    match skipBlanks rest with
    | '.' :: rest =>
      let (path, rest) ← readPath bound rest
      return (key :: path, rest)
    | rest => return ([key], rest)

/-- A dotted key at the front of a text. -/
def readDottedKey (cs : List Char) : Option (List String × List Char) :=
  readPath (nestingLimit - 1) cs

/-! ## Values -/

mutual

/-- A value at the front of a text, inside of which others are nested up to a depth. -/
def readValue : Nat → Nat → List Char → Option (Document × List Char)
  | 0, _, _ => none
  | bound + 1, depth, cs =>
    match cs with
    | '"' :: _ | '\x27' :: _ => (readString cs).map fun (s, rest) => (.text s, rest)
    | '[' :: rest =>
      match depth with
      | 0 => none
      | depth + 1 => (readItems bound depth rest).map fun (items, rest) => (.list items, rest)
    | '{' :: rest =>
      match depth with
      | 0 => none
      | depth + 1 =>
        match skipBlanks rest with
        | '}' :: rest => some (.record [], rest)
        | rest =>
          (readMembers bound depth [] rest).map fun (table, rest) => (table.toDocument, rest)
    | 't' :: 'r' :: 'u' :: 'e' :: rest => some (.bool true, rest)
    | 'f' :: 'a' :: 'l' :: 's' :: 'e' :: rest => some (.bool false, rest)
    | _ =>
      -- A date begins like a number, so dates are tried first.
      match readDateTime cs with
      | some rest => some (dateTime, rest)
      | none => readNumber cs

/-- The items of a list up to and including the closing bracket. A comma may follow the last. -/
def readItems : Nat → Nat → List Char → Option (List Document × List Char)
  | 0, _, _ => none
  | bound + 1, depth, cs =>
    match skipGaps false cs with
    | ']' :: rest => some ([], rest)
    | rest =>
      match readValue bound depth rest with
      | none => none
      | some (item, rest) =>
        match skipGaps false rest with
        | ',' :: rest => (readItems bound depth rest).map fun (items, rest) => (item :: items, rest)
        | ']' :: rest => some ([item], rest)
        | _ => none

/-- The members of a table on one line up to and including the closing brace, behind those that
have been read before. -/
def readMembers : Nat → Nat → Table → List Char → Option (Table × List Char)
  | 0, _, _, _ => none
  | bound + 1, depth, table, cs =>
    match readDottedKey cs with
    | some (path, '=' :: rest) =>
      match readValue bound depth (skipBlanks rest) with
      | none => none
      | some (value, rest) =>
        match table.assign value path true with
        | none => none
        | some table =>
          match skipBlanks rest with
          | ',' :: rest => readMembers bound depth table rest
          | '}' :: rest => some (table, rest)
          | _ => none
    | _ => none

end

/-! ## Lines -/

/-- A line that says something. -/
inductive Line where
  | assignment (path : List String) (value : Document)
  | table (header : List String)
  | element (header : List String)

/-- The line at the front of a text. -/
def readLine (cs : List Char) : Option (Line × List Char) :=
  match cs with
  | '[' :: '[' :: rest =>
    match readDottedKey rest with
    | some (header, ']' :: ']' :: rest) =>
      (readLineEnd rest).map fun rest => (.element header, rest)
    | _ => none
  | '[' :: rest =>
    match readDottedKey rest with
    | some (header, ']' :: rest) => (readLineEnd rest).map fun rest => (.table header, rest)
    | _ => none
  | _ =>
    match readDottedKey cs with
    | some (path, '=' :: rest) => do
      let (value, rest) ← readValue (2 * rest.length + 2) (nestingLimit - 1) (skipBlanks rest)
      let rest ← readLineEnd rest
      return (.assignment path value, rest)
    | _ => none

/-- The lines of a text. Every line takes at least one character, which bounds their number. -/
def readLines : Nat → List Char → Option (List Line)
  | 0, _ => none
  | bound + 1, cs =>
    match skipBlanks cs with
    | [] => some []
    | cs =>
      match readLineEnd cs with
      | some rest => readLines bound rest
      | none => do
        let (line, rest) ← readLine cs
        return line :: (← readLines bound rest)

/-! ## Texts -/

/-- The tables of a text as far as it has been read, and the header under which it goes on. -/
structure Progress where
  root : Table
  header : List String

namespace Progress

/-- The progress after one more line. -/
def add (progress : Progress) : Line → Option Progress
  | .assignment path value =>
    (progress.root.inside (fun table => table.assign value path true) progress.header).map
      fun root => { progress with root }
  | .table header => (progress.root.declare header).map fun root => ⟨root, header⟩
  | .element header => (progress.root.extend header).map fun root => ⟨root, header⟩

end Progress

/-- The text behind a byte order mark, if there is one. -/
def skipMark : List Char → List Char
  | '\ufeff' :: rest => rest
  | cs => cs

/-- The document of a TOML text. -/
def parse (text : String) : Option Document := do
  let cs := skipMark text.toList
  let lines ← readLines (cs.length + 1) cs
  let progress ← lines.foldlM Progress.add ⟨[], []⟩
  return progress.root.toDocument

end Skirmish.Toml
