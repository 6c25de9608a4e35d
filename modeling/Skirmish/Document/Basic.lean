import Skirmish.Number.Single

/-!
# Documents

A document is the value that a JSON or a TOML text denotes, without regard to how it is spelled.
Snapshots, layouts, configurations and strategies are read from documents, and snapshots and
commands are written as documents.

Both formats have values that their grammar allows and that nothing can be read from, such as a
number that no floating-point number comes near. They matter only where something is read from
them, so they are documents too: `unreadable` ones.
-/

namespace Skirmish

/-- The value of a structured text. -/
inductive Document where
  | null
  | bool (value : Bool)
  | integer (value : Int)
  | real (value : Number.Single)
  | text (value : String)
  | list (items : List Document)
  /-- Named values, in the order in which they are written. -/
  | record (fields : List (String × Document))
  | unreadable
deriving Repr, Inhabited

namespace Document

mutual

/-- Whether something can be read from every part of a document. -/
def isReadable : Document → Bool
  | .list items => areReadable items
  | .record fields => haveReadableValues fields
  | .unreadable => false
  | _ => true

/-- Whether something can be read from every part of every item. -/
def areReadable : List Document → Bool
  | [] => true
  | item :: rest => item.isReadable && areReadable rest

/-- Whether something can be read from every part of every field. -/
def haveReadableValues : List (String × Document) → Bool
  | [] => true
  | (_, value) :: rest => value.isReadable && haveReadableValues rest

end

mutual

/-- The number of lists and records around the innermost part of a document. -/
def depth : Document → Nat
  | .list items => depthOfItems items + 1
  | .record fields => depthOfFields fields + 1
  | _ => 0

/-- The greatest depth of an item. -/
def depthOfItems : List Document → Nat
  | [] => 0
  | item :: rest => max item.depth (depthOfItems rest)

/-- The greatest depth of a field. -/
def depthOfFields : List (String × Document) → Nat
  | [] => 0
  | (_, value) :: rest => max value.depth (depthOfFields rest)

end

end Document

end Skirmish
