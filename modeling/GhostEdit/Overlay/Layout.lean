import GhostEdit.Alignment
import GhostEdit.Overlay.Mark
import GhostEdit.Suggestion.Item
import GhostEdit.Value.Row

/-!
# Laying a suggestion set out over a buffer

An item that replaces just the row of the cursor continues that row in place, from the column
where its first line departs from what is there; any other item is a block of lines. The rows
it replaces are marked for deletion.

## Main definitions

* `Layout.inlineSplit?`: where ghost text starts on a row
* `Layout.itemMarks`, `Layout.marks`: the marks of an item and of a set, unless an item names a row
  that no position of the buffer is, or one that is no text
-/

namespace GhostEdit

namespace Layout

/-- The column from which `proposed` departs from `existing`; none when they share no start. -/
def inlineSplit? (existing proposed : Text) : Option Nat :=
  if existing.isPrefixOf proposed then some existing.length
  else
    match (Alignment.edits existing proposed).find? (!·.same) with
    | some edit => if 0 < edit.rightStart then some edit.rightStart else none
    | none => none

/-- The row with the given number, counted from one, or from the end for numbers below one. -/
def rowAt (rows : List Value) (row : Int) : Except Failure Value :=
  match Span.pick? rows (row - 1) with
  | some line => .ok line
  | none => .error (.outOfRange false)

/-- The column from which an item continues the row of the cursor; zero if it does not. -/
def inlineColumn (item : Item) (rows : List Value) (cursorRow : Int) : Except Failure Nat :=
  if item.startRow = item.endRow ∧ item.endRow = cursorRow ∧ item.startRow ≤ rows.length then do
    let line ← rowAt rows item.startRow
    let existing ← line.asStart
    pure ((inlineSplit? existing (item.lines.headD [])).getD 0)
  else .ok 0

/-- The ghost text of an item that continues its row from `col` on, if that is not zero. -/
def ghostOf (item : Item) (col : Nat) : Ghost :=
  let lines := item.lines
  if 0 < col then
    { item := item.id
      row := item.startRow
      col
      inline := some ((lines.headD []).drop col)
      block := lines.drop 1 }
  else if 1 < item.startRow then
    { item := item.id, row := item.startRow - 1, block := lines }
  else { item := item.id, row := 1, block := lines, above := true }

/-- The numbers of the rows an item replaces that the buffer has. -/
def replacedRows (item : Item) (size : Nat) : List Int :=
  let count := (min item.endRow size - item.startRow + 1).toNat
  (List.range count).map fun (k : Nat) => item.startRow + (k : Int)

/-- The mark of a row that an item replaces. -/
def deletionAt (item : Item) (rows : List Value) (row : Int) : Except Failure Mark := do
  let line ← rowAt rows row
  let length ← line.length
  pure (.deletion item.id row length)

/-- The marks of one item. -/
def itemMarks (item : Item) (rows : List Value) (cursorRow : Int) :
    Except Failure (List Mark) := do
  let col ← inlineColumn item rows cursorRow
  let replaced := (replacedRows item rows.length).filter
    fun row => !(row = item.startRow && 0 < col)
  let deletions ← replaced.mapM (deletionAt item rows)
  pure (.ghost (ghostOf item col) :: deletions)

/-- The marks of a whole set. -/
def marks (set : SuggestionSet) (rows : List Value) (cursorRow : Int) :
    Except Failure (List Mark) :=
  (set.mapM fun item => itemMarks item rows cursorRow).map List.flatten

end Layout

end GhostEdit
