import Skirmish.Document.Toml.Parser
import Skirmish.Error
import Skirmish.Map.Document

/-!
# Loading a layout

A layout that is read from a text has its start base among its bases, unless it has no bases at
all. A layout made in another way need not: it then starts at the origin.
-/

namespace Skirmish.Layout

/-- Whether there are bases and the start base is not one of them. -/
def lacksStartBase (layout : Layout) : Bool :=
  !layout.bases.isEmpty && layout.bases.length ≤ layout.startBase.toNat

/-- The layout that a TOML text says. -/
def ofToml (text : String) : Except Error Layout :=
  match (Toml.parse text).bind (ofDocument? .toml) with
  | none => .error .toml
  | some layout =>
    if layout.lacksStartBase then
      .error (.config (.startBaseOutOfRange layout.startBase layout.bases.length))
    else .ok layout

end Skirmish.Layout
