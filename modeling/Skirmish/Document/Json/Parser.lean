import Skirmish.Document.Json.Literal

/-!
# Reading JSON

`parse` accepts exactly the texts of one JSON value, with blanks around every part, and gives the
document of the value.

The reader goes down into lists and records with a bound on the number of steps. Every two steps
take at least one character, so a bound of twice the length is never reached.
-/

namespace Skirmish.Json

/-- The document of named values. If a name spells no characters, nothing can be read from it. -/
def recordOf (members : List (Option String × Document)) : Document :=
  match members.mapM fun (name, value) => name.map fun name => (name, value) with
  | some fields => .record fields
  | none => .unreadable

/-- The document of a string. -/
def textOf : Option String → Document
  | some s => .text s
  | none => .unreadable

mutual

/-- A value at the front of a text, and what is left. -/
def readValue : Nat → List Char → Option (Document × List Char)
  | 0, _ => none
  | bound + 1, cs =>
    match skipBlanks cs with
    | '"' :: rest => (readString rest).map fun (s, rest) => (textOf s, rest)
    | '[' :: rest =>
      match skipBlanks rest with
      | ']' :: rest => some (.list [], rest)
      | rest => (readItems bound rest).map fun (items, rest) => (.list items, rest)
    | '{' :: rest =>
      match skipBlanks rest with
      | '}' :: rest => some (.record [], rest)
      | rest => (readMembers bound rest).map fun (members, rest) => (recordOf members, rest)
    | 'n' :: 'u' :: 'l' :: 'l' :: rest => some (.null, rest)
    | 't' :: 'r' :: 'u' :: 'e' :: rest => some (.bool true, rest)
    | 'f' :: 'a' :: 'l' :: 's' :: 'e' :: rest => some (.bool false, rest)
    | rest => (Numeral.read rest).map fun (n, rest) => (n.document, rest)

/-- The items of a list up to and including the closing bracket. -/
def readItems : Nat → List Char → Option (List Document × List Char)
  | 0, _ => none
  | bound + 1, cs =>
    match readValue bound cs with
    | none => none
    | some (item, rest) =>
      match skipBlanks rest with
      | ',' :: rest => (readItems bound rest).map fun (items, rest) => (item :: items, rest)
      | ']' :: rest => some ([item], rest)
      | _ => none

/-- The named values of a record up to and including the closing brace. -/
def readMembers : Nat → List Char → Option (List (Option String × Document) × List Char)
  | 0, _ => none
  | bound + 1, cs =>
    match skipBlanks cs with
    | '"' :: rest =>
      match readString rest with
      | none => none
      | some (name, rest) =>
        match skipBlanks rest with
        | ':' :: rest =>
          match readValue bound rest with
          | none => none
          | some (value, rest) =>
            match skipBlanks rest with
            | ',' :: rest =>
              (readMembers bound rest).map fun (members, rest) => ((name, value) :: members, rest)
            | '}' :: rest => some ([(name, value)], rest)
            | _ => none
        | _ => none
    | _ => none

end

/-- The document of a JSON text. -/
def parse (text : String) : Option Document :=
  let cs := text.toList
  match readValue (2 * cs.length + 2) cs with
  | some (document, rest) => if skipBlanks rest = [] then some document else none
  | none => none

end Skirmish.Json
