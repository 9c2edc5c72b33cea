import GhostEdit.Buffer.Basic
import GhostEdit.Clock
import GhostEdit.Journal

/-!
# Debouncing edits

A signal starts a timer in place of the one before it, so only the last of several quick signals
has an effect. When the timer expires, the cursor must still be near where the signal came from,
and enough time must have passed since the last effect.

Timers are kept by the host. A host can fail to start a timer, start none, or fail to cancel one,
and the controller puts up with all of that.

## Main definitions

* `Host`, `Timer`, `Timers`: the host's timers
* `Debounce`, `Debounce.signal`, `Debounce.cancel`, `Debounce.reset`, `Debounce.expire`
* `Debounce.fire`, `Debounce.signalInLoop`: timers that are due expire
-/

namespace GhostEdit

/-- How a host deals with timers. -/
inductive Host where
  /-- It keeps a list of them. -/
  | listing
  /-- It fails to start any. -/
  | failing
  /-- It starts none and says nothing. -/
  | silent
  /-- It starts them and fails to cancel them. -/
  | stubborn
  /-- It can start them only while an event loop runs. -/
  | looping (running : Bool)
deriving DecidableEq, Repr, Inhabited

/-- A timer that has not expired. -/
structure Timer where
  id : Nat
  /-- The buffer the timer belongs to. -/
  owner : String
  delay : Seconds
deriving DecidableEq, Inhabited

/-- The timers of a host, oldest first. -/
structure Timers where
  host : Host := .listing
  next : Nat := 0
  live : List Timer := []
deriving Inhabited

namespace Timers

/-- Start a timer. The result is its number, if the host started it. -/
def start (ts : Timers) (owner : String) (delay : Seconds) :
    Timers × Option Nat × List Record :=
  let started : Timers × Option Nat × List Record :=
    ({ ts with next := ts.next + 1, live := ts.live ++ [⟨ts.next, owner, delay⟩] }, some ts.next,
      [])
  match ts.host with
  | .listing => started
  | .stubborn => started
  | .looping true => started
  | .looping false =>
    (ts, none, [⟨.debug, .debounce, "No running event loop, dropping scheduled callback"⟩])
  | .failing => (ts, none, [⟨.debug, .debounce, "Failed to schedule suggestion: no loop"⟩])
  | .silent => (ts, none, [])

/-- Cancel a timer. -/
def cancel (ts : Timers) (id : Nat) : Timers × List Record :=
  if ts.host = .stubborn then
    (ts, [⟨.debug, .debounce, "Failed to cancel suggestion timer: cancel failed"⟩])
  else ({ ts with live := ts.live.filter (·.id ≠ id) }, [])

/-- Whether the host runs timers by an event loop. -/
def loops (ts : Timers) : Bool :=
  match ts.host with
  | .looping _ => true
  | _ => false

/-- The timers that expire now: all of them, but in an event loop only those without a delay. -/
def due (ts : Timers) : List Timer :=
  if ts.loops then ts.live.filter (·.delay = .zero) else ts.live

end Timers

/-- Decides when a signal turns into a request. -/
structure Debounce where
  /-- The milliseconds from a signal to the end of its timer. -/
  intervalMs : Value
  /-- The milliseconds between two effects. -/
  throttleMs : Value
  /-- How many columns the cursor may move. -/
  tolerance : Value
  lastCursor : Option Cursor := none
  timer : Option Nat := none
  throttledUntil : Seconds := .zero
deriving Inhabited

namespace Debounce

/-- How far the cursor may move unless another bound is given. -/
def defaultTolerance : Value := .int 5

/-- A controller; without a time between effects the interval serves for both. -/
def new (intervalMs throttleMs tolerance : Value) : Except Failure Debounce := do
  let interval ← intervalMs.positivePart
  let throttle ← match throttleMs with
    | .null => .ok interval
    | v => v.positivePart
  pure { intervalMs := interval, throttleMs := throttle, tolerance }

/-- Whether the last effect was too recent. -/
def isThrottled (d : Debounce) (now : Seconds) : Bool := now < d.throttledUntil

/-- Cancel the timer, if one runs. -/
def cancel (d : Debounce) (ts : Timers) : Debounce × Timers × List Record :=
  match d.timer with
  | none => (d, ts, [])
  | some id =>
    let (ts, records) := ts.cancel id
    ({ d with timer := none }, ts, records)

/-- Start the timer anew for a signal from the given cursor. No timer runs for an interval that is
too long. -/
def signal (d : Debounce) (ts : Timers) (owner : String) (cursor : Cursor) :
    Debounce × Timers × List Record :=
  let (d, ts, cancelled) := d.cancel ts
  let d := { d with lastCursor := some cursor }
  match Seconds.ofMillis d.intervalMs with
  | .error e =>
    (d, ts, cancelled ++ [⟨.debug, .debounce, s!"Failed to schedule suggestion: {e.message}"⟩])
  | .ok delay =>
    let (ts, timer, started) := ts.start owner delay
    ({ d with timer }, ts, cancelled ++ started)

/-- Cancel the timer and forget the last signal and the last effect. -/
def reset (d : Debounce) (ts : Timers) : Debounce × Timers × List Record :=
  let (d, ts, records) := d.cancel ts
  ({ d with lastCursor := none, throttledUntil := .zero }, ts, records)

/-- Whether a cursor is still near another: on the same row and few columns away. -/
def isNear (tolerance : Value) (current signalled : Cursor) : Except Failure Bool := do
  let row ← current.coordinate 0
  let signalledRow ← signalled.coordinate 0
  if row = signalledRow then
    let col ← current.coordinate 1
    let signalledCol ← signalled.coordinate 1
    Value.compare .less (.int (col - signalledCol).natAbs) tolerance
  else .ok false

/-- Whether the cursor is still near the last signal. Without a way to look the cursor up it is
taken to be. -/
def isStable (d : Debounce) (signalled : Cursor) (look : Option (Except Failure Cursor)) :
    Except Failure Bool × List Record :=
  match look with
  | none => (.ok true, [])
  | some (.error e) =>
    let told := e.quotedMessage
    (.ok false, [⟨.debug, .debounce, s!"Cursor lookup failed: {told}"⟩])
  | some (.ok current) => (isNear d.tolerance current signalled, [])

/-- What happens when the timer expires: the cursor of the signal, if it turns into a request. -/
def expire (d : Debounce) (now : Seconds) (look : Option (Except Failure Cursor)) :
    Debounce × Except Failure (Option Cursor) × List Record :=
  let d := { d with timer := none }
  let moved : List Record :=
    [⟨.debug, .debounce, "Cursor moved since last edit, skipping suggestion"⟩]
  match d.lastCursor with
  | none => (d, .ok none, moved)
  | some cursor =>
    match d.isStable cursor look with
    | (.error e, records) => (d, .error e, records)
    | (.ok false, records) => (d, .ok none, records ++ moved)
    | (.ok true, records) =>
      if d.isThrottled now then
        (d, .ok none, records ++ [⟨.debug, .debounce, "Suggestion throttled"⟩])
      else
        match Seconds.ofMillis d.throttleMs with
        | .error e => (d, .error e, records)
        | .ok pause => ({ d with throttledUntil := now + pause }, .ok (some cursor), records)

/-- A number of timers expire one after the other, up to the first that fails unless failures do not
count; the cursors of those that turn into requests are given in order. -/
def expireTimes (heedless : Bool) (now : Seconds) (look : Option (Except Failure Cursor)) :
    Nat → Debounce → Debounce × Except Failure (List Cursor) × List Record
  | 0, d => (d, .ok [], [])
  | count + 1, d =>
    let goOn (d : Debounce) (here : List Cursor) (records : List Record) :=
      let (d, fired, more) := expireTimes heedless now look count d
      (d, fired.map (here ++ ·), records ++ more)
    match d.expire now look with
    | (d, .ok (some cursor), records) => goOn d [cursor] records
    | (d, .ok none, records) => goOn d [] records
    | (d, .error e, records) =>
      if heedless then goOn d [] records else (d, .error e, records)

/-- The timers that are due expire, and no timer is left. An event loop takes no notice of what
fails in it. -/
def fire (d : Debounce) (ts : Timers) (now : Seconds) (look : Option (Except Failure Cursor)) :
    Debounce × Timers × Except Failure (List Cursor) × List Record :=
  let (d, fired, records) := expireTimes ts.loops now look ts.due.length d
  (d, { ts with live := [] }, fired, records)

/-- A signal inside a running event loop, after which the timers that are due expire. -/
def signalInLoop (d : Debounce) (ts : Timers) (now : Seconds)
    (look : Option (Except Failure Cursor)) (cursor : Cursor) :
    Debounce × Timers × Except Failure (List Cursor) × List Record :=
  let running := if ts.loops then { ts with host := .looping true } else ts
  let (d, after, records) := d.signal running "" cursor
  let (d, after, fired, more) := d.fire after now look
  (d, { after with host := ts.host }, fired, records ++ more)

end Debounce

end GhostEdit
