import GhostEdit.Cache
import GhostEdit.Debounce
import GhostEdit.Ignore.Basic
import GhostEdit.Metrics
import GhostEdit.Overlay.Board
import GhostEdit.Reporter
import GhostEdit.Settings.Basic

/-!
# Sessions

A session owns the suggestions of every open buffer. Each buffer that was touched has a context:
the suggestion sets on offer, which of them is selected, and the number of the newest request.
Requests run while the user goes on, so what a request brings counts only as long as the context
of its buffer still names it.

Every operation is a function on the session. One that can fail gives the session it leaves
behind also when it does.

## Main definitions

* `Phase`, `Context`, `Request`, `Session`
* `Session.new`, `Session.ownCache`
* `Session.isCurrent`: whether a request is the newest of its buffer
* `Session.touch`, `Session.changeContext`: the context of a buffer
-/

namespace GhostEdit

/-- Where the suggestions of a buffer stand. -/
inductive Phase where
  /-- There are none. -/
  | idle
  /-- A request runs. -/
  | fetching
  /-- There are some to choose from. -/
  | ready
deriving DecidableEq, Repr, Inhabited

/-- The name of a phase. -/
def Phase.name : Phase → String
  | .idle => "idle"
  | .fetching => "fetching"
  | .ready => "ready"

/-- The suggestions of one buffer. -/
structure Context where
  sets : List SuggestionSet := []
  /-- Which set is selected. -/
  index : Int := 0
  /-- The rows at the last signal of an edit, or after the last accepted item. -/
  previous : Option (List Value) := none
  phase : Phase := .idle
  /-- The number of the newest request; zero if there was none. -/
  request : Int := 0
  /-- Whether the session itself moves the cursor. -/
  moving : Bool := false
deriving Inhabited

/-- The selected set, if the index points at one. -/
def Context.current? (c : Context) : Option SuggestionSet :=
  if 0 ≤ c.index then c.sets[c.index.toNat]? else none

/-- A request that was sent to the provider. -/
structure Request where
  id : Nat
  buffer : String
  started : Seconds
  /-- The fingerprint under which its answer is stored. -/
  key : String
  /-- The pieces of the answer so far. -/
  parts : List Text := []
  /-- How many sets its context held when that was dropped. -/
  dropped : Option Nat := none
  /-- Whether its answer was taken over. -/
  committed : Bool := false
deriving DecidableEq, Inhabited

/-- The answer of a request so far. -/
def Request.answer (r : Request) : Text := r.parts.flatten

/-- The state of a session. -/
structure Session where
  settings : Settings
  now : Seconds
  /-- The name of the provider. -/
  provider : String
  /-- The directory from which relative paths count. -/
  directory : Path := ⟨['/'], []⟩
  rules : Option IgnoreRules := none
  buffers : Buffers := {}
  contexts : Registry Context := []
  controllers : Registry Debounce := []
  timers : Timers := {}
  /-- The buffers for which a request is due to start. -/
  queued : List String := []
  /-- The requests that run. -/
  requests : List Request := []
  /-- The number of the last request. -/
  lastRequest : Nat := 0
  cache : Cache
  /-- What every reading of the cache fails with, if it does. -/
  unreadable : Option Failure := none
  /-- What every writing to the cache fails with, if it does. -/
  unwritable : Option Failure := none
  reporter : Reporter := {}
  board : Board := {}
  metrics : Metrics
  /-- What was logged and shown, oldest first. -/
  journal : List Entry := []
deriving Inhabited

namespace Session

/-- The cache that a session makes for itself. -/
def ownCache (settings : Settings) : Cache :=
  { capacity := settings.value .cacheCapacity, lifetime := settings.value .cacheLifetime }

/-- A session without buffers, with a cache of its own. -/
def new (settings : Settings) (provider : String) (now : Seconds) : Except Failure Session := do
  let metrics ← Metrics.empty (settings.value .metricsWindow)
  pure { settings, now, provider, metrics, cache := ownCache settings }

/-! ## The journal -/

/-- Note entries in the journal. -/
def note (s : Session) (entries : List Entry) : Session :=
  { s with journal := s.journal ++ entries }

/-- Note records in the journal. -/
def noteRecords (s : Session) (records : List Record) : Session := s.note (records.map .log)

/-- Log a message about the session itself. -/
def log (s : Session) (severity : Severity) (message : String) : Session :=
  s.noteRecords [⟨severity, .session, message⟩]

/-- Report a failure. -/
def report (s : Session) (e : Failure) (source : String) : Session :=
  let (reporter, entries) := s.reporter.report e source
  { s with reporter }.note entries

/-- Show a message to the user, unless it was shown before. -/
def notify (s : Session) (message : String) (level : Int) : Session :=
  let (reporter, entries, _) := s.reporter.notifyOnce message level
  { s with reporter }.note entries

/-! ## Contexts -/

/-- The context of a buffer, if it has one. -/
def context? (s : Session) (id : String) : Option Context := s.contexts.lookup id

/-- The context of a buffer, made new if there is none. -/
def context (s : Session) (id : String) : Context := (s.context? id).getD {}

/-- Put a context in place. -/
def setContext (s : Session) (id : String) (c : Context) : Session :=
  { s with contexts := s.contexts.put id c }

/-- Make sure that a buffer has a context. -/
def touch (s : Session) (id : String) : Session :=
  match s.context? id with
  | some _ => s
  | none => s.setContext id {}

/-- Change the context of a buffer, if it has one. -/
def changeContext (s : Session) (id : String) (f : Context → Context) : Session :=
  match s.context? id with
  | some c => s.setContext id (f c)
  | none => s

/-- Where the suggestions of a buffer stand. -/
def phase (s : Session) (id : String) : Phase := (s.context id).phase

/-- The selected set of a buffer. -/
def current? (s : Session) (id : String) : Option SuggestionSet :=
  (s.context? id).bind Context.current?

/-- Whether ghost text is drawn in a buffer. -/
def isVisible (s : Session) (id : String) : Bool := s.board.isVisible id

/-! ## Requests -/

/-- Whether a request is the newest of a buffer. -/
def isCurrent (s : Session) (id : String) (request : Nat) : Bool :=
  match s.context? id with
  | some c => c.request = request
  | none => false

/-- A request that runs. -/
def request? (s : Session) (id : Nat) : Option Request := s.requests.find? (·.id = id)

/-- Change a request that runs. -/
def changeRequest (s : Session) (id : Nat) (f : Request → Request) : Session :=
  { s with requests := s.requests.map fun r => if r.id = id then f r else r }

/-- How many sets the context of a request holds, or held when it was dropped. -/
def setCount (s : Session) (r : Request) : Nat :=
  match r.dropped with
  | some n => n
  | none => (s.context r.buffer).sets.length

/-- Note a finished request in the metrics; a slow one is logged. One whose time is no finite number
cannot be noted. -/
def record (s : Session) (buffer : String) (started : Seconds) (cacheHit : Bool)
    (sets chars : Nat) (success : Bool) : Session × Except Failure Unit :=
  match (s.now - started).toMillis with
  | .error e => (s, .error e)
  | .ok elapsedMs =>
    let m : Metric := { buffer, cacheHit, sets, elapsedMs, chars, success }
    let s := { s with metrics := s.metrics.add m }
    (if m.slow then s.log .warning s!"Slow suggestion request for {buffer}: {m.elapsedMs}ms"
      else s, .ok ())

/-! ## The overlay -/

/-- Take everything drawn in a buffer away. -/
def hide (s : Session) (id : String) : Session :=
  let (board, buffers) := s.board.clearOn s.buffers id
  { s with board, buffers }

/-- Leave a buffer without suggestions. -/
def settle (s : Session) (id : String) : Session :=
  (s.changeContext id fun c => { c with phase := .idle, sets := [] }).hide id

end Session

end GhostEdit
