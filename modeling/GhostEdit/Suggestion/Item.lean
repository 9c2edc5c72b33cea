import GhostEdit.Text.Basic

/-!
# Suggestion items

An item proposes one contiguous edit: replace the rows from `startRow` to `endRow`, both
inclusive and counted from one, by its content. When every replaced row was already in place,
`startRow` is beyond `endRow` and the content is inserted before `startRow`.

## Main definitions

* `Item`, `Item.lines`, `Item.replacedCount`, `Item.lastRow`, `Item.containsRow`, `Item.shift`
-/

namespace GhostEdit

/-- One proposed edit. -/
structure Item where
  id : Int
  content : Text
  startRow : Int
  endRow : Int
  /-- The first row as proposed, before rows already in place were trimmed. -/
  firstRow : Int
deriving DecidableEq, Inhabited

/-- A suggestion set: edits meant to be made together. -/
abbrev SuggestionSet := List Item

namespace Item

/-- The rows the item brings in. -/
def lines (item : Item) : List Text := item.content.lines

/-- How many rows the item replaces. -/
def replacedCount (item : Item) : Int := max 0 (item.endRow - item.startRow + 1)

/-- The last row the item touches or is anchored to. -/
def lastRow (item : Item) : Int := max item.endRow item.startRow

/-- Whether a cursor on this row counts as inside the item. -/
def containsRow (item : Item) (row : Int) : Bool :=
  item.firstRow - 1 ≤ row && row ≤ item.lastRow

/-- The item moved by `delta` rows. -/
def shift (delta : Int) (item : Item) : Item :=
  { item with
    startRow := item.startRow + delta
    endRow := item.endRow + delta
    firstRow := item.firstRow + delta }

end Item

end GhostEdit
