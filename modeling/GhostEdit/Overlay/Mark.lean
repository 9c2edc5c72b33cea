import GhostEdit.Value.Basic

/-!
# Overlay marks

An overlay is drawn on top of a buffer and never changes it. Ghost text is anchored at a row: a
part drawn on that row from a column on, and lines drawn below it, or above it. A deletion marks
a row that the suggestion replaces. A host may put anything else on an overlay, which is kept
and never drawn.

## Main definitions

* `Ghost`, `Mark`
-/

namespace GhostEdit

/-- Suggested text anchored at a row. -/
structure Ghost where
  item : Int
  row : Int
  col : Int := 0
  /-- What is drawn on the row itself, from `col` on. -/
  inline : Option Text := none
  /-- Lines of their own, below the row unless `above` is set. -/
  block : List Text := []
  above : Bool := false
deriving DecidableEq, Inhabited

/-- One mark of an overlay. -/
inductive Mark where
  | ghost (g : Ghost)
  /-- The row up to the column will be replaced. -/
  | deletion (item row endCol : Int)
  /-- Something else a host put there. -/
  | other (v : Value)
deriving Inhabited

end GhostEdit
