import GhostEdit.Buffer.Apply
import GhostEdit.Session.Navigation

/-!
# Accepting items

Accepting applies the first item of the selected set that contains the row of the cursor and moves
the items below it. If no item does, the cursor jumps to the nearest one. Without any suggestion
the accept key goes back to the host when it is also the key of the host's own completion.

## Main definitions

* `Session.Outcome`, `Session.accept`
* `Session.itemAt?`, `Session.nearest?`: the item to apply, and the item to jump to
-/

namespace GhostEdit

namespace Session

/-- What accepting did. -/
inductive Outcome where
  | applied
  | jumped
  | fallback
  | noop
deriving DecidableEq, Repr, Inhabited

/-- The name of an outcome. -/
def Outcome.name : Outcome → String
  | .applied => "applied"
  | .jumped => "jumped"
  | .fallback => "fallback"
  | .noop => "noop"

/-- The first item that contains a row, with the items before and after it. -/
def itemAt? (row : Int) : SuggestionSet → Option (SuggestionSet × Item × SuggestionSet)
  | [] => none
  | item :: rest =>
    if item.containsRow row then some ([], item, rest)
    else (itemAt? row rest).map fun (before, found, after) => (item :: before, found, after)

/-- How far the start of an item is from a row. -/
def distance (row : Int) (item : Item) : Nat := (item.startRow - row).natAbs

/-- The item that starts nearest to a row; of several the first. -/
def nearest? (row : Int) : SuggestionSet → Option Item
  | [] => none
  | item :: rest =>
    match nearest? row rest with
    | none => some item
    | some other => some (if distance row other < distance row item then other else item)

/-- The items that are left after one was applied: those that start below it move along. -/
def shiftBelow (applied : Item) (delta : Int) (others : SuggestionSet) : SuggestionSet :=
  others.map fun item => if applied.startRow < item.startRow then item.shift delta else item

/-- Hand the accept key back to the host, if it is also the key of its own completion. -/
def handBack (s : Session) (id : String) : Session × Except Failure Outcome :=
  let key := s.settings.value .acceptKey
  if key.isTruthy && key.same (s.settings.value .completionKey) then
    let shown := s.settings.shown .acceptKey
    let s := s.noteRecords [⟨.debug, .buffers, s!"Feeding {shown} to {id}"⟩]
    match s.buffers.modify id fun b => .ok { b with fedKeys := b.fedKeys ++ [key] } with
    | .error e => (s, .error e)
    | .ok buffers => ({ s with buffers }, .ok .fallback)
  else (s, .ok .noop)

/-- The row from which an item is typed: the one before it. -/
def jumpRow (item : Item) (rows : List Value) : Int :=
  let row := if 1 < item.startRow then item.startRow - 1 else 1
  if rows.isEmpty then 1 else min row rows.length

/-- Put the cursor at the end of the row before an item. -/
def jumpIn (item : Item) (b : Buffer) : Except Failure Buffer :=
  let row := jumpRow item b.lines
  if b.lines.isEmpty then (b.setCursor row 0).map Buffer.startInsert
  else
    match Layout.rowAt b.lines row with
    | .error e => .error e
    | .ok line => do
      let length ← line.length
      let moved ← b.setCursor row length
      pure moved.startInsert

/-- Nothing is moved by the session itself any more. -/
def endMove (s : Session) (id : String) : Session :=
  s.changeContext id fun c => { c with moving := false }

/-- Jump to an item. -/
def jump (s : Session) (id : String) (item : Item) : Session × Except Failure Outcome :=
  let s := s.log .debug s!"Jumping to suggestion {item.id} at row {item.startRow}"
  match s.buffers.modify id (jumpIn item) with
  | .error e => (s, .error e)
  | .ok buffers =>
    match ({ s with buffers }.endMove id).present id with
    | (s, .error e) => (s, .error e)
    | (s, .ok ()) => (s, .ok .jumped)

/-- Keep what is left of the selected set after an item was applied. -/
def retain (s : Session) (id : String) (c : Context) (b : Buffer) (left : SuggestionSet) :
    Session × Except Failure Outcome :=
  let s := s.setContext id
    { c with
      sets := c.sets.set c.index.toNat left
      previous := some b.lines
      moving := false }
  if left.isEmpty then (s.dismiss id, .ok .applied)
  else
    match s.present id with
    | (s, .error e) => (s, .error e)
    | (s, .ok ()) => (s, .ok .applied)

/-- Apply an item that stands between the other items of the selected set. -/
def applyItem (s : Session) (id : String) (c : Context) (b : Buffer) (item : Item)
    (others : SuggestionSet) : Session × Except Failure Outcome :=
  let s := (s.hide id).noteRecords [Buffer.applyLog item]
  match ({ b with overlay := [] } : Buffer).apply id item with
  | (b, .error e) => ({ s with buffers := s.buffers.put id b }.endMove id, .error e)
  | (b, .ok edit) =>
    let left := shiftBelow item edit.delta others
    let count := left.length
    let message := s!"Applied suggestion {item.id}, {count} left, delta {edit.delta}"
    { s with buffers := s.buffers.put id b }.log .debug message |>.retain id c b left

/-- Accept the selected set at the cursor of a buffer. -/
def acceptAt (s : Session) (id : String) (c : Context) (set : SuggestionSet) (b : Buffer) :
    Session × Except Failure Outcome :=
  match b.cursor.row with
  | .error e => (s, .error e)
  | .ok row =>
    match itemAt? row set with
    | some (before, item, after) => s.applyItem id c b item (before ++ after)
    | none =>
      match nearest? row set with
      | some item => s.jump id item
      | none => (s, .ok .noop)

/-- Accept the suggestion under the cursor. -/
def accept (s : Session) (id : String) : Session × Except Failure Outcome :=
  match s.context? id with
  | none => s.handBack id
  | some c =>
    match c.phase, c.current? with
    | .ready, some (item :: rest) =>
      match s.buffers.get id with
      | .error e => (s, .error e)
      | .ok b => s.acceptAt id c (item :: rest) b
    | _, _ => s.handBack id

end Session

end GhostEdit
