import Skirmish.Document.Reading
import Skirmish.Map.Layout

/-!
# Points and layouts as documents

Each type has a reader `ofDocument?` and a writer `toDocument`; the reader takes more than the
writer gives, since fields may be left out and structures may be lists.
-/

namespace Skirmish

/-- The point that a document stands for. -/
def Point.ofDocument? (dialect : Dialect) (d : Document) : Option Point := do
  let fields ← d.fields? dialect false ["x", "y"]
  return { x := ← fields.required 0 Document.real?, y := ← fields.required 1 Document.real? }

/-- The document of a point. -/
def Point.toDocument (p : Point) : Document := .record [("x", .real p.x), ("y", .real p.y)]

/-- The base that a document stands for. -/
def Base.ofDocument? (dialect : Dialect) (d : Document) : Option Base := do
  let fields ← d.fields? dialect false
    ["townhall", "build_areas", "defend_points", "rally_point", "active"]
  let point? := Point.ofDocument? dialect
  return {
    townhall := ← fields.required 0 point?
    buildAreas := ← fields.withDefault 1 (Document.list? point?) []
    defendPoints := ← fields.withDefault 2 (Document.list? point?) []
    rally := ← fields.withDefault 3 (Document.optional? point?) none
    active := ← fields.withDefault 4 Document.bool? false }

/-- The document of a base. -/
def Base.toDocument (base : Base) : Document := .record [
  ("townhall", base.townhall.toDocument),
  ("build_areas", .list (base.buildAreas.map Point.toDocument)),
  ("defend_points", .list (base.defendPoints.map Point.toDocument)),
  ("rally_point", match base.rally with
    | some p => p.toDocument
    | none => .null),
  ("active", .bool base.active)]

/-- The layout that a document stands for. -/
def Layout.ofDocument? (dialect : Dialect) (d : Document) : Option Layout := do
  let fields ← d.fields? dialect false ["start_base", "proxy", "bases"]
  return {
    startBase := ← fields.withDefault 0 Document.uint64? 0
    proxy := ← fields.withDefault 1 (Point.ofDocument? dialect) .origin
    bases := ← fields.withDefault 2 (Document.list? (Base.ofDocument? dialect)) [] }

/-- The document of a layout. -/
def Layout.toDocument (layout : Layout) : Document := .record [
  ("start_base", .integer layout.startBase.toNat),
  ("proxy", layout.proxy.toDocument),
  ("bases", .list (layout.bases.map Base.toDocument))]

end Skirmish
