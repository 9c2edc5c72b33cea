import GhostEdit.Session.Basic

/-!
# Showing, choosing and dismissing suggestions

The selected set is drawn as an overlay while text is typed in its buffer. The selection goes
round in a circle. Dismissing drops everything a buffer has on offer, cancels its timer and makes
the requests that still run outdated.

## Main definitions

* `Session.present`: draw the selected set
* `Session.next`, `Session.prev`, `Session.dismiss`
-/

namespace GhostEdit

namespace Session

/-- Draw a set in a buffer. -/
def draw (s : Session) (id : String) (b : Buffer) (set : SuggestionSet) :
    Session × Except Failure Unit :=
  let (board, buffers, drawn) := s.board.drawOn s.buffers id set b.lines b.cursor
  let s := { s with board, buffers }
  match drawn with
  | .error e => (s, .error e)
  | .ok marks => (s.noteRecords (Board.drawLog id marks), .ok ())

/-- Draw the selected set in place of what was drawn, if text is typed in the buffer. -/
def present (s : Session) (id : String) : Session × Except Failure Unit :=
  let s := s.hide id
  match s.buffers.get id with
  | .error e => (s, .error e)
  | .ok b =>
    if b.isInsert then
      match s.current? id with
      | none => (s, .ok ())
      | some [] => (s, .ok ())
      | some set => s.draw id b set
    else (s, .ok ())

/-- Move the selection by `step` sets, round in a circle. -/
def rotate (s : Session) (id : String) (step : Int) : Session × Except Failure Unit :=
  match s.context? id with
  | none => (s, .ok ())
  | some c =>
    if c.phase = .ready && !c.sets.isEmpty then
      (s.setContext id { c with index := (c.index + step) % c.sets.length }).present id
    else (s, .ok ())

/-- Select the next set. -/
def next (s : Session) (id : String) : Session × Except Failure Unit := s.rotate id 1

/-- Select the set before. -/
def prev (s : Session) (id : String) : Session × Except Failure Unit := s.rotate id (-1)

/-- Cancel the timer of a buffer and forget its last signal. -/
def resetController (s : Session) (id : String) : Session :=
  match s.controllers.lookup id with
  | none => s
  | some d =>
    let (d, timers, records) := d.reset s.timers
    { s with controllers := s.controllers.put id d, timers }.noteRecords records

/-- Drop the context of a buffer. Its requests keep the number of sets it had. -/
def dropContext (s : Session) (id : String) : Session :=
  let count := (s.context id).sets.length
  { s with
    contexts := s.contexts.erase id
    requests := s.requests.map fun r =>
      if r.buffer = id && r.dropped.isNone then { r with dropped := some count } else r }

/-- Drop the suggestions of a buffer and make its requests outdated. -/
def dismiss (s : Session) (id : String) : Session := ((s.resetController id).hide id).dropContext id

end Session

end GhostEdit
