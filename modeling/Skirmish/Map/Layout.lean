import Skirmish.Map.Point
import Skirmish.Number.TotalOrder
import Skirmish.Ordered.Least

/-!
# The layout of a map

A layout lists the locations where a base can stand, each with the points around it that matter,
and marks those that have been taken. Only the marks ever change.
-/

namespace Skirmish

/-- A location where a base can stand. -/
structure Base where
  townhall : Point
  buildAreas : List Point
  defendPoints : List Point
  /-- Where units gather, if not at the townhall. -/
  rally : Option Point
  /-- Whether the location has been taken. -/
  active : Bool
deriving DecidableEq, Repr, Inhabited

namespace Base

/-- A location of which only the townhall is known. -/
def atTownhall (townhall : Point) : Base := ⟨townhall, [], [], none, false⟩

/-- Where units gather. -/
def rallyPoint (base : Base) : Point := base.rally.getD base.townhall

end Base

/-- The bases of a map. -/
structure Layout where
  startBase : UInt64
  proxy : Point
  bases : List Base
deriving DecidableEq, Repr, Inhabited

namespace Layout

/-- The layout without bases. -/
def empty : Layout := ⟨0, .origin, []⟩

/-- The layout with one base, which is also where we start. -/
def singleBase (townhall : Point) : Layout := ⟨0, townhall, [.atTownhall townhall]⟩

/-- The base with an index. -/
def base? (layout : Layout) (index : UInt64) : Option Base := layout.bases[index.toNat]?

/-- Where we start; the origin if there is no such base. -/
def startLocation (layout : Layout) : Point :=
  match layout.base? layout.startBase with
  | some base => base.townhall
  | none => .origin

/-- The index of the base whose townhall is nearest to a position; at equal distance the lowest. -/
def nearestBase? (layout : Layout) (position : Point) : Option Nat :=
  let distance (entry : Base × Nat) := Number.rank (entry.1.townhall.distanceSquared position)
  (least (fun a b => decide (distance a < distance b)) layout.bases.zipIdx).map (·.2)

/-- The base that is active and has the highest index, with that index. -/
def newestActive (layout : Layout) : Option (Base × Nat) :=
  (layout.bases.zipIdx.filter fun entry => entry.1.active).getLast?

/-- Mark a base as taken; an index without a base changes nothing. -/
def activate (layout : Layout) (index : Nat) : Layout :=
  { layout with bases := layout.bases.modify index fun base => { base with active := true } }

end Layout

end Skirmish
