import GhostEdit.Overlay.Mark
import GhostEdit.Value.Row

/-!
# Buffers

A buffer holds the rows of a document with a cursor, a mode and an overlay. Rows count from one
and columns from zero. A row is a text, unless the host put some other value there.

## Main definitions

* `Cursor`, `Buffer`
* `Buffer.ofText`, `Buffer.text`
* `Buffer.setLines`, `Buffer.setCursor`: the operations that keep the cursor and the rows in
  range
-/

namespace GhostEdit

/-- Where the cursor stands. -/
inductive Cursor where
  /-- On a row, before the character in a column. -/
  | at (row col : Int)
  /-- Coordinates a host stored that are no pair of a row and a column. -/
  | odd (coordinates : List Int) (tuple : Bool)
deriving DecidableEq, Inhabited

namespace Cursor

/-- The coordinates as a list. -/
def coordinates : Cursor → List Int
  | .at row col => [row, col]
  | .odd cs _ => cs

/-- Whether a host stored the coordinates as a tuple. -/
def isTuple : Cursor → Bool
  | .at _ _ => true
  | .odd _ tuple => tuple

/-- One of the coordinates. -/
def coordinate (c : Cursor) (i : Nat) : Except Failure Int :=
  match c.coordinates[i]? with
  | some n => .ok n
  | none => .error (.outOfRange c.isTuple)

/-- The row, if there is a first coordinate. -/
def row (c : Cursor) : Except Failure Int := c.coordinate 0

/-- The row and the column, if there are exactly two coordinates. -/
def pair : Cursor → Except Failure (Int × Int)
  | .at row col => .ok (row, col)
  | .odd [row, col] _ => .ok (row, col)
  | .odd cs _ => .error (.wrongArity cs.length)

/-- The cursor as messages show it. -/
def shown (c : Cursor) : String :=
  let inner := ", ".intercalate (c.coordinates.map toString)
  s!"({inner})"

end Cursor

/-- The mode in which text is typed. -/
def insertMode : String := "insert"

/-- The mode a buffer starts in. -/
def normalMode : String := "normal"

/-- A document being edited. -/
structure Buffer where
  /-- The file it belongs to. -/
  path : Option String := none
  lines : List Value := [.str []]
  cursor : Cursor := .at 1 0
  mode : String := normalMode
  modifiable : Bool := true
  filetype : String := ""
  /-- Whether it was changed since it was last written. -/
  dirty : Bool := false
  overlay : List Mark := []
  /-- Keys handed back to the host, oldest first. -/
  fedKeys : List Value := []
deriving Inhabited

namespace Buffer

/-- The rows of a text. -/
def rowsOf (t : Text) : List Value := t.lines.map .str

/-- A new buffer with the rows of a text. -/
def ofText (t : Text) (filetype : String) (path : Option String) : Buffer :=
  { lines := rowsOf t, filetype, path }

/-- The rows as one string, by its code points. -/
def text (b : Buffer) : Except Failure (List Nat) := Value.joinRows b.lines

/-- Rows padded with empty ones so that an edit can start at index `start`. -/
def padTo (start : Int) (lines : List Value) : List Value :=
  lines ++ List.replicate (start - lines.length).toNat (.str [])

/-- Rows of which there is at least one. -/
def nonEmpty (lines : List Value) : List Value := if lines.isEmpty then [.str []] else lines

/-- The rows after those from index `start` up to but not including `stop` were replaced. An edit
past the end fills the gap with empty rows, and a document never runs out of rows. -/
def replaceRows (start stop : Int) (new lines : List Value) : List Value :=
  let padded := padTo start lines
  nonEmpty (Span.splice start (max start (min stop padded.length)) new padded)

/-- Replace rows, unless the buffer refuses edits. -/
def setLines (id : String) (start stop : Int) (new : List Value) (b : Buffer) :
    Except Failure Buffer :=
  if b.modifiable then
    .ok { b with lines := replaceRows start stop new b.lines, dirty := true }
  else .error (.readOnly id)

/-- The nearest cursor inside the rows, if there is a row and it has a length. -/
def clampCursor (row col : Int) (lines : List Value) : Except Failure Cursor :=
  let r := min (max 1 row) lines.length
  match Span.pick? lines (r - 1) with
  | none => .error (.outOfRange false)
  | some line => line.length.map fun length => .at r (min (max 0 col) length)

/-- Move the cursor, as far as the rows allow. -/
def setCursor (row col : Int) (b : Buffer) : Except Failure Buffer :=
  (clampCursor row col b.lines).map fun cursor => { b with cursor }

/-- Whether text is being typed. -/
def isInsert (b : Buffer) : Bool := b.mode = insertMode

/-- Start typing. -/
def startInsert (b : Buffer) : Buffer := { b with mode := insertMode }

end Buffer

end GhostEdit
