import GhostEdit.Buffer.Basic
import GhostEdit.Journal
import GhostEdit.Suggestion.Item

/-!
# Applying an item to a buffer

Applying replaces the rows of an item by its content, moves the cursor behind it and leaves the
buffer in insert mode. When the content has fewer rows than it replaces, the surplus rows go
first and the rest is overwritten.

## Main definitions

* `AppliedEdit`: what was changed
* `Buffer.apply`: apply an item
* `Buffer.applyLog`: what is logged about it
-/

namespace GhostEdit

/-- What applying an item changed. -/
structure AppliedEdit where
  startRow : Int
  replaced : Int
  inserted : Nat
  cursorRow : Int
  cursorCol : Int
deriving DecidableEq, Inhabited

/-- The change in the number of rows. -/
def AppliedEdit.delta (e : AppliedEdit) : Int := e.inserted - e.replaced

/-- The edit that an item amounts to. -/
def Item.edit (item : Item) : AppliedEdit :=
  let lines := item.lines
  { startRow := item.startRow
    replaced := item.replacedCount
    inserted := lines.length
    cursorRow := item.startRow + lines.length - 1
    cursorCol := (lines.getLastD []).length }

namespace Buffer

/-- The rows after an item was applied. -/
def applyRows (item : Item) (lines : List Value) : List Value :=
  let new := item.lines.map Value.str
  let first := item.startRow - 1
  if (new.length : Int) < item.replacedCount then
    replaceRows first (first + new.length) new
      (replaceRows (first + new.length) item.endRow [] lines)
  else replaceRows first (first + item.replacedCount) new lines

/-- Apply an item. A buffer that refuses edits stays as it is; one whose cursor cannot be put behind
the item keeps the new rows. -/
def apply (id : String) (item : Item) (b : Buffer) : Buffer × Except Failure AppliedEdit :=
  if b.modifiable then
    let edit := item.edit
    let written := { b with lines := applyRows item b.lines, dirty := true }
    match written.setCursor edit.cursorRow edit.cursorCol with
    | .error e => (written, .error e)
    | .ok moved => (moved.startInsert, .ok edit)
  else (b, .error (.readOnly id))

/-- What is logged before an item is applied. -/
def applyLog (item : Item) : Record :=
  let count := item.lines.length
  if (count : Int) < item.replacedCount then
    let first := item.startRow - 1 + count + 1
    ⟨.debug, .edits, s!"Deleting rows {first}-{item.endRow}"⟩
  else
    ⟨.debug, .edits, s!"Replacing rows {item.startRow}-{item.endRow} with {count} lines"⟩

end Buffer

end GhostEdit
