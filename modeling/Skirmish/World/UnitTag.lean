import Skirmish.Ordered.Key

/-!
# Unit tags

The simulation gives every unit a tag for life. Tags are ordered by their number, and wherever a
choice between units is otherwise open the smaller tag decides it.
-/

namespace Skirmish

/-- The identity of a unit. -/
structure UnitTag where
  number : UInt64
deriving DecidableEq, Repr, Inhabited

namespace UnitTag

instance : Key UnitTag := Key.ofRank (fun t => t.number.toNat) fun {a b} h => by
  cases a
  cases b
  simpa using UInt64.toNat.inj h

/-- A tag in a message. -/
def text (tag : UnitTag) : String := s!"#{tag.number.toNat}"

end UnitTag

end Skirmish
