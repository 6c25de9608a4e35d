import Skirmish.Document.Basic

/-!
# Tables of TOML

A TOML text fills tables line by line. A table that has its own header is closed to everything but
its own lines; a table that only came to be because a longer header or a dotted key goes through it
can still be added to, in the way in which it came to be. So while a text is read every table
remembers its `Origin`, and `Table.toDocument` forgets it in the end.

* `assign` gives a value to a dotted key;
* `declare` opens the table of a header, and `extend` adds an element to a list of tables;
* `inside` does something in the table to which a header leads.

All of them fail where the text would define something twice.
-/

namespace Skirmish.Toml

/-- How a table came to be. -/
inductive Origin where
  /-- By a header of its own. -/
  | declared
  /-- By the header of a table inside it. -/
  | implied
  /-- By a dotted key. -/
  | dotted
deriving DecidableEq, Repr

/-- What a key of a table stands for. -/
inductive Node where
  | value (document : Document)
  | table (origin : Origin) (entries : List (String × Node))
  /-- A list of tables, each with a header of its own. -/
  | tables (elements : List (List (String × Node)))

/-- The entries of a table, in the order in which their keys were first written. -/
abbrev Table := List (String × Node)

namespace Table

/-- The table with another node for a key that it has. -/
def replace (table : Table) (key : String) (node : Node) : Table :=
  table.map fun entry => if entry.1 = key then (key, node) else entry

/-- Change the last element of a list of tables. -/
def changeLast (change : Table → Option Table) : List Table → Option (List Table)
  | [] => none
  | [last] => (change last).map fun last => [last]
  | first :: rest => (changeLast change rest).map (first :: ·)

/-- Give a value to a dotted key. The keys before the last lead through tables that no header
declares, and the last one is new in a table that came to be by a dotted key, or in the table in
which the line stands: `accepts` says that the table is such a one. -/
def assign (value : Document) : List String → Bool → Table → Option Table
  | [], _, _ => none
  | [key], accepts, table =>
    if accepts && (table.lookup key).isNone then some (table ++ [(key, .value value)]) else none
  | key :: path, _, table =>
    -- What `accepts` says about this table counts only for its own keys.
    match table.lookup key with
    | none => (assign value path true []).map fun inner => table ++ [(key, .table .dotted inner)]
    | some (.value _) => none
    | some (.table .declared _) => none
    | some (.table origin inner) =>
      (assign value path (origin = .dotted) inner).map fun inner =>
        table.replace key (.table origin inner)
    | some (.tables elements) =>
      (changeLast (assign value path false) elements).map fun elements =>
        table.replace key (.tables elements)

/-- Do something in the table to which a header leads. In a list of tables it leads to the last
one. -/
def inside (change : Table → Option Table) : List String → Table → Option Table
  | [], table => change table
  | key :: path, table =>
    match table.lookup key with
    | none => (inside change path []).map fun inner => table ++ [(key, .table .implied inner)]
    | some (.value _) => none
    | some (.table origin inner) =>
      (inside change path inner).map fun inner => table.replace key (.table origin inner)
    | some (.tables elements) =>
      (changeLast (inside change path) elements).map fun elements =>
        table.replace key (.tables elements)

/-- Open the table of a key. It is new, or only implied so far. -/
def declareKey (key : String) (table : Table) : Option Table :=
  match table.lookup key with
  | none => some (table ++ [(key, .table .declared [])])
  | some (.table .implied inner) => some (table.replace key (.table .declared inner))
  | some _ => none

/-- Add an element to the list of tables of a key. -/
def extendKey (key : String) (table : Table) : Option Table :=
  match table.lookup key with
  | none => some (table ++ [(key, .tables [[]])])
  | some (.tables elements) => some (table.replace key (.tables (elements ++ [[]])))
  | some _ => none

/-- Open the table of a header. -/
def declare (header : List String) (table : Table) : Option Table := do
  let key ← header.getLast?
  table.inside (declareKey key) header.dropLast

/-- Add an element to the list of tables of a header. -/
def extend (header : List String) (table : Table) : Option Table := do
  let key ← header.getLast?
  table.inside (extendKey key) header.dropLast

end Table

mutual

/-- The document of a node. -/
def Node.toDocument : Node → Document
  | .value document => document
  | .table _ entries => .record (fieldsOf entries)
  | .tables elements => .list (recordsOf elements)

/-- The fields of the record of a table. -/
def fieldsOf : List (String × Node) → List (String × Document)
  | [] => []
  | (key, node) :: entries => (key, node.toDocument) :: fieldsOf entries

/-- The records of several tables. -/
def recordsOf : List (List (String × Node)) → List Document
  | [] => []
  | entries :: elements => .record (fieldsOf entries) :: recordsOf elements

end

/-- The document of a table. -/
def Table.toDocument (table : Table) : Document := .record (fieldsOf table)

end Skirmish.Toml
