import Skirmish.Document.Basic
import Skirmish.Number.Decimal

/-!
# Reading values from documents

Every type that is read from a document has a reader, a function that gives the value that a
document stands for, or nothing. This module has the readers of the basic types and the three rules
by which the others are made:

* a structure is a record of its fields (`Document.fields?`), or a list of them in their order;
* a variant is its name, or a record of one field that has the name (`Document.variant?`);
* a list is a list of the items that one reader reads.

The two formats agree on all but three points, which a `Dialect` decides.
-/

namespace Skirmish

/-- The points on which the formats differ in what a value can be read from. -/
structure Dialect where
  /-- Whether a list that stands for a structure may have more items than there are fields. -/
  allowsSurplus : Bool
  /-- Whether the fields of a variant have to be known ones. -/
  closesVariants : Bool
  /-- Whether the document can stand beside the name of a variant that has no content. -/
  isNoContent : Document → Bool

namespace Dialect

/-- In JSON the fields of a list are counted, and `null` stands for no content. -/
def json : Dialect where
  allowsSurplus := false
  closesVariants := false
  isNoContent
    | .null => true
    | _ => false

/-- In TOML items beyond the fields are ignored, a variant has no fields but its own, and an empty
list or record stands for no content. -/
def toml : Dialect where
  allowsSurplus := true
  closesVariants := true
  isNoContent
    | .list [] => true
    | .record [] => true
    | _ => false

end Dialect

namespace Document

/-! ## Basic types -/

/-- A truth value. -/
def bool? : Document → Option Bool
  | .bool b => some b
  | _ => none

/-- A text. -/
def text? : Document → Option String
  | .text s => some s
  | _ => none

/-- A number; an integer stands for the number nearest to it. -/
def real? : Document → Option Number.Single
  | .real x => some x
  | .integer i => some (Number.ofInt i)
  | _ => none

/-- An integer that is not negative and smaller than a limit. -/
def natBelow? (limit : Nat) : Document → Option Nat
  | .integer i => if 0 ≤ i ∧ i < limit then some i.toNat else none
  | _ => none

/-- An unsigned integer of 32 bits. -/
def uint32? (d : Document) : Option UInt32 := (d.natBelow? UInt32.size).map UInt32.ofNat

/-- An unsigned integer of 64 bits. -/
def uint64? (d : Document) : Option UInt64 := (d.natBelow? UInt64.size).map UInt64.ofNat

/-- A signed integer of 64 bits. -/
def int64? : Document → Option Int64
  | .integer i =>
    if Int64.minValue.toInt ≤ i ∧ i ≤ Int64.maxValue.toInt then some (Int64.ofInt i) else none
  | _ => none

/-- The items of a list. -/
def list? {α : Type} (item? : Document → Option α) : Document → Option (List α)
  | .list items => items.mapM item?
  | _ => none

/-- Something that may be missing. -/
def optional? {α : Type} (value? : Document → Option α) : Document → Option (Option α)
  | .null => some none
  | d => (value? d).map some

/-! ## Structures -/

/-- The fields of a structure, as far as they are given. -/
structure Fields where
  /-- Whether the fields are given by name. -/
  named : Bool
  /-- What is given for each field, in the order of the fields. -/
  given : List (Option Document)

/-- The fields of a structure, given by name or in their order. A field is given at most once, and
if the structure is closed every name is that of a field. -/
def fields? (dialect : Dialect) (isClosed : Bool) (names : List String) :
    Document → Option Fields
  | .record entries =>
    if names.all (fun name => entries.countP (fun entry => entry.1 = name) ≤ 1)
        && (!isClosed || entries.all fun entry => names.contains entry.1) then
      some ⟨true, names.map fun name => entries.lookup name⟩
    else none
  | .list items =>
    if items.length ≤ names.length || dialect.allowsSurplus then
      some ⟨false, (List.range names.length).map fun i => items[i]?⟩
    else none
  | _ => none

namespace Fields

/-- What is given for the field at a position. -/
def at? (fields : Fields) (position : Nat) : Option Document := (fields.given[position]?).join

/-- A field that has to be given. -/
def required {α : Type} (fields : Fields) (position : Nat) (value? : Document → Option α) :
    Option α :=
  (fields.at? position).bind value?

/-- A field that has a value also where none is given. -/
def withDefault {α : Type} (fields : Fields) (position : Nat) (value? : Document → Option α)
    (default : α) : Option α :=
  match fields.at? position with
  | some d => value? d
  | none => some default

/-- A field that may be missing; but a list cannot leave it out. -/
def optional {α : Type} (fields : Fields) (position : Nat) (value? : Document → Option α) :
    Option (Option α) :=
  match fields.at? position with
  | some d => d.optional? value?
  | none => if fields.named then some none else none

end Fields

/-! ## Variants -/

/-- The name of a variant and the content beside it, if there is any. -/
def variant? : Document → Option (String × Option Document)
  | .text name => some (name, none)
  | .record [(name, content)] => some (name, some content)
  | _ => none

/-- The value of a variant without content, given the values by their names. -/
def plainVariant? {α : Type} (dialect : Dialect) (names : List (String × α)) (d : Document) :
    Option α :=
  match d.variant? with
  | some (name, none) => names.lookup name
  | some (name, some content) => if dialect.isNoContent content then names.lookup name else none
  | none => none

end Document

end Skirmish
