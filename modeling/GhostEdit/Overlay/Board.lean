import GhostEdit.Buffer.Store
import GhostEdit.Overlay.Layout

/-!
# The board of overlays

The board remembers the marks drawn in each buffer. When the buffers are at hand the marks are
put on their overlays as well, and taken off again.

## Main definitions

* `Board`, `Board.isVisible`
* `Board.clear`, `Board.draw`: the board alone
* `Board.clearOn`, `Board.drawOn`: the board together with the buffers
-/

namespace GhostEdit

/-- The marks drawn in each buffer. -/
structure Board where
  marks : Registry (List Mark) := []
deriving Inhabited

namespace Board

/-- Whether something is drawn in a buffer. -/
def isVisible (board : Board) (id : String) : Bool :=
  ((board.marks.lookup id).map fun ms => !ms.isEmpty).getD false

/-- Forget the marks of a buffer. -/
def clear (board : Board) (id : String) : Board := ⟨board.marks.erase id⟩

/-- Forget the marks of a buffer and take them off its overlay. -/
def clearOn (board : Board) (bs : Buffers) (id : String) : Board × Buffers :=
  (board.clear id, bs.adjust id fun b => { b with overlay := [] })

/-- The marks of a set over rows, where the cursor counts only if there is an item. -/
def layout (set : SuggestionSet) (rows : List Value) (cursor : Cursor) :
    Except Failure (List Mark) :=
  if set.isEmpty then .ok []
  else
    match cursor.row with
    | .error e => .error e
    | .ok row => Layout.marks set rows row

/-- Draw a set in place of what was drawn in a buffer. A set without marks leaves nothing. -/
def draw (board : Board) (id : String) (set : SuggestionSet) (rows : List Value)
    (cursor : Cursor) : Board × Except Failure (List Mark) :=
  let board := board.clear id
  match layout set rows cursor with
  | .error e => (board, .error e)
  | .ok [] => (board, .ok [])
  | .ok marks => (⟨board.marks.put id marks⟩, .ok marks)

/-- What is logged when marks were drawn. -/
def drawLog (id : String) (marks : List Mark) : List Record :=
  if marks.isEmpty then []
  else
    let count := marks.length
    [⟨.debug, .overlay, s!"Rendered {count} overlay marks in {id}"⟩]

/-- Draw a set and put it on the overlay of its buffer. -/
def drawOn (board : Board) (bs : Buffers) (id : String) (set : SuggestionSet)
    (rows : List Value) (cursor : Cursor) : Board × Buffers × Except Failure (List Mark) :=
  let (_, cleared) := board.clearOn bs id
  match board.draw id set rows cursor with
  | (board, .error e) => (board, cleared, .error e)
  | (board, .ok []) => (board, cleared, .ok [])
  | (board, .ok marks) =>
    match cleared.modify id fun b => .ok { b with overlay := marks } with
    | .ok bs => (board, bs, .ok marks)
    | .error e => (board, cleared, .error e)

end Board

end GhostEdit
