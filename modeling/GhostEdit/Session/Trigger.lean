import GhostEdit.Session.Navigation

/-!
# From edits to requests

The host signals edits and cursor moves. A signal counts in a buffer that is being typed in, may
be changed and is not ignored, once enough text stands before the cursor. It then starts the timer
of the buffer, and when that expires a request is queued.

## Main definitions

* `Session.shouldTrigger`: whether an edit may lead to a request
* `Session.editSignal`, `Session.insertEnter`, `Session.close`
* `Session.fire`: let all timers expire
-/

namespace GhostEdit

namespace Session

/-- Where an edit happened: the path of the buffer, the row of the cursor if it exists, and the
column. -/
structure Place where
  path : Option String
  row : Option Value
  col : Int

/-- Where the cursor of a buffer stands. There is nothing to look at in a buffer that is not typed
in or must not be changed. -/
def inspect (s : Session) (id : String) : Except Failure (Option Place) :=
  match s.buffers.get id with
  | .error e => .error e
  | .ok b =>
    if b.isInsert && b.modifiable then
      match b.cursor.pair with
      | .error e => .error e
      | .ok (row, col) =>
        .ok (some ⟨b.path, (Span.slice (row - 1) (some row) b.lines).head?, col⟩)
    else .ok none

/-- Whether a path is ignored; without a path or without rules it is not. -/
def isIgnoredPath (s : Session) (path : Option String) : Except Failure Bool :=
  match path, s.rules with
  | some path, some rules =>
    if s.settings.isOn .respectIgnore then rules.isIgnored s.directory path.toList else .ok false
  | _, _ => .ok false

/-- Whether enough text stands before the cursor. -/
def isEnough (s : Session) (p : Place) : Except Failure Bool := do
  let before ← match p.row with
    | some row => row.typed p.col
    | none => .ok []
  Value.compare .greaterEq (.int before.length) (s.settings.value .minChars)

/-- Whether an edit in a buffer may lead to a request. -/
def shouldTrigger (s : Session) (id : String) : Session × Except Failure Bool :=
  if !s.settings.isOn .enabled then (s, .ok false)
  else
    match s.inspect id with
    | .error e =>
      let told := e.quotedMessage
      (s.log .debug s!"Cannot inspect buffer {id}: {told}", .ok false)
    | .ok none => (s, .ok false)
    | .ok (some p) =>
      match s.isIgnoredPath p.path with
      | .error e => (s, .error e)
      | .ok true =>
        let path := p.path.getD ""
        (s.log .debug s!"Ignored path, not suggesting: {path}", .ok false)
      | .ok false => (s, s.isEnough p)

/-- The controller of a buffer, made new if there is none. -/
def controller (s : Session) (id : String) : Except Failure Debounce :=
  match s.controllers.lookup id with
  | some d => .ok d
  | none =>
    Debounce.new (s.settings.value .debounceMs) (s.settings.value .throttleMs)
      Debounce.defaultTolerance

/-- Start the timer of a buffer anew. -/
def startTimer (s : Session) (id : String) (cursor : Cursor) : Session × Except Failure Unit :=
  match s.controller id with
  | .error e => (s, .error e)
  | .ok d =>
    let (d, timers, records) := d.signal s.timers id cursor
    ({ s with controllers := s.controllers.put id d, timers }.noteRecords records, .ok ())

/-- Whether the rows of a buffer are those of the last signal. -/
def isSeen (c : Context) (b : Buffer) : Bool :=
  match c.previous with
  | some rows => Value.sameElements rows b.lines
  | none => false

/-- Start the timer of a buffer whose rows changed since the last signal, unless the session
itself moves the cursor. -/
def noteEdit (s : Session) (id : String) (b : Buffer) : Session × Except Failure Unit :=
  let s := s.touch id
  let c := s.context id
  if c.moving || isSeen c b then (s, .ok ())
  else (s.setContext id { c with previous := some b.lines }).startTimer id b.cursor

/-- The host signals an edit or a cursor move. -/
def editSignal (s : Session) (id : String) : Session × Except Failure Unit :=
  match s.shouldTrigger id with
  | (s, .error e) => (s, .error e)
  | (s, .ok false) => (s, .ok ())
  | (s, .ok true) =>
    match s.buffers.get id with
    | .error e => (s, .error e)
    | .ok b => s.noteEdit id b

/-- The host starts to type in a buffer. -/
def insertEnter (s : Session) (id : String) : Session × Except Failure Unit :=
  if s.isVisible id then (s, .ok ()) else s.editSignal id

/-- The host closes a buffer. -/
def close (s : Session) (id : String) : Session :=
  let s := s.dismiss id
  { s with controllers := s.controllers.erase id }

/-- Queue a request for a buffer, if it may still have one and something can run it. -/
def debounced (s : Session) (loop : Bool) (id : String) : Session × Except Failure Unit :=
  match s.shouldTrigger id with
  | (s, .error e) => (s, .error e)
  | (s, .ok false) => (s, .ok ())
  | (s, .ok true) =>
    if loop then ({ s with queued := s.queued ++ [id] }, .ok ())
    else (s.log .debug "No running event loop, cannot fetch suggestions", .ok ())

/-- The timer of a buffer expires. One whose controller is gone has no effect. -/
def expire (s : Session) (loop : Bool) (id : String) : Session × Except Failure Unit :=
  match s.controllers.lookup id with
  | none => (s, .ok ())
  | some d =>
    let look := (s.buffers.get id).map (·.cursor)
    match d.expire s.now (some look) with
    | (d, outcome, records) =>
      let s := { s with controllers := s.controllers.put id d }.noteRecords records
      match outcome with
      | .error e => (s, .error e)
      | .ok none => (s, .ok ())
      | .ok (some _) => s.debounced loop id

/-- Timers expire one after the other, up to the first that fails. -/
def expireAll (loop : Bool) : Session → List Timer → Session × Except Failure Unit
  | s, [] => (s, .ok ())
  | s, t :: rest =>
    match s.expire loop t.owner with
    | (s, .error e) => (s, .error e)
    | (s, .ok ()) => expireAll loop s rest

/-- All timers expire; the result is their number. -/
def fire (s : Session) (loop : Bool) : Session × Except Failure Nat :=
  let due := s.timers.live
  match expireAll loop { s with timers := { s.timers with live := [] } } due with
  | (s, .error e) => (s, .error e)
  | (s, .ok ()) => (s, .ok due.length)

end Session

end GhostEdit
