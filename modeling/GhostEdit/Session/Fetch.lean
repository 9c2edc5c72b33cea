import GhostEdit.Document.Fingerprint
import GhostEdit.Document.Window
import GhostEdit.Prompt
import GhostEdit.Session.Navigation
import GhostEdit.Suggestion.Answer

/-!
# Requests

A request starts from the cursor of a buffer. If the cache has the answer it is done at once;
else the provider is asked, and delivers the answer in pieces and then its end or a failure. Only
the newest request of a buffer can change what the buffer offers.

## Main definitions

* `Session.begin`: start a request
* `Session.deliver`, `Session.finish`, `Session.fail`, `Session.abort`: what a provider reports
* `Session.conclude`: a request is over
* `Session.commit`: take an answer over
-/

namespace GhostEdit

namespace Session

/-- Where faults of requests come from. -/
def source : String := "SuggestionManager.suggest"

/-! ## The cache -/

/-- Look an answer up. A cache that cannot be read has none. -/
def cached (s : Session) (key : String) : Session × Option Text :=
  match s.unreadable with
  | some e =>
    let told := e.quotedMessage
    (s.report (.ofFault .cacheFailure s!"Cache read failed: {told}" []) source, none)
  | none =>
    let records := s.cache.lookupLog key s.now
    let (cache, found) := s.cache.lookup key s.now
    ({ s with cache }.noteRecords records, found)

/-- Write to the cache, with what is logged about it. -/
def write (s : Session) (key : String) (payload : Value) : Session × Except Failure Unit :=
  match s.unwritable with
  | some e => (s, .error e)
  | none =>
    let (cache, outcome, evicted) := s.cache.store key payload s.now
    ({ s with cache }.noteRecords (Cache.evictionLog evicted), outcome)

/-- The fault that a failure to write is reported as: one of the cache is told as it is. -/
def writeFault (e : Failure) : Failure :=
  let told := e.quotedMessage
  let failed : Failure := .ofFault .cacheFailure s!"Cache write failed: {told}" []
  match e with
  | .fault f => if f.kind = .cacheFailure then .fault f else failed
  | _ => failed

/-- Keep an answer. A cache that cannot be written is reported. -/
def keep (s : Session) (key : String) (answer : Text) : Session :=
  match s.write key (.str answer) with
  | (s, .ok ()) => s
  | (s, .error e) => s.report (writeFault e) source

/-! ## Taking an answer over -/

/-- Report why a request failed. If it is the newest, its buffer is left without suggestions. -/
def giveUp (s : Session) (id : String) (request : Nat) (e : Failure) (place : String) : Session :=
  let s := s.report e place
  if s.isCurrent id request then s.settle id else s

/-- Offer sets in a buffer; the flag tells whether there are any. -/
def offer (s : Session) (id : String) (sets : List SuggestionSet) :
    Session × Except Failure Bool :=
  if sets.isEmpty then ((s.settle id).notify "No suggestions found" 20, .ok false)
  else
    let s := s.changeContext id fun c => { c with sets, index := 0, phase := .ready }
    let count := sets.length
    match (s.log .info s!"{count} suggestion set(s) ready for {id}").present id with
    | (s, .error e) => (s, .error e)
    | (s, .ok ()) => (s, .ok true)

/-- Take an answer over, if the request is still the newest. It is kept under `key`, if there is
one. -/
def commit (s : Session) (id : String) (request : Nat) (answer : Text) (key : Option String) :
    Session × Except Failure Bool :=
  if s.isCurrent id request then
    match s.buffers.get id with
    | .error e => (s, .error e)
    | .ok b =>
      let rows := b.lines.map Value.plain
      let s := s.noteRecords (Answer.parseLog answer rows)
      match Answer.parse answer rows with
      | .error e => (s, .error e)
      | .ok sets =>
        let s := match key with
          | some key => s.keep key answer
          | none => s
        s.offer id sets
  else (s.log .debug s!"Discarding stale suggestion response for {id}", .ok false)

/-! ## Starting -/

/-- The cursor of a buffer that is fit for a request, with the buffer. -/
def position (s : Session) (id : String) : Except Failure (Int × Int × Buffer) :=
  let invalid (message : String) : Except Failure (Int × Int × Buffer) :=
    .error (.ofFault .invalidInput message [])
  match s.buffers.get id with
  | .error e =>
    let told := e.quotedMessage
    invalid s!"Invalid buffer: {told}"
  | .ok b =>
    let check (row col : Int) : Except Failure (Int × Int × Buffer) :=
      if 1 ≤ row ∧ row ≤ b.lines.length ∧ 0 ≤ col then .ok (row, col, b)
      else
        let shown := b.cursor.shown
        let count := b.lines.length
        invalid s!"Cursor {shown} outside buffer of {count} lines"
    if b.lines.isEmpty then invalid "Buffer is empty"
    else
      match b.cursor with
      | .at row col => check row col
      | .odd (row :: col :: _) true => check row col
      | .odd _ _ => invalid "Invalid cursor position"

/-- The name under which a buffer is shown to the model. -/
def filenameOf (b : Buffer) : Text :=
  match b.path with
  | some path => if path.isEmpty then "untitled".toList else (Path.ofText path.toList).name
  | none => "untitled".toList

/-- The messages that ask for suggestions at a cursor. -/
def messagesAt (s : Session) (row col : Int) (b : Buffer) : Except Failure (List Message) :=
  match Window.chunks b.lines row (s.settings.value .windowSize) (s.settings.value .chunkSize)
      true with
  | .error e => .error e
  | .ok ⟨_, some e⟩ => .error e
  | .ok ⟨texts, none⟩ =>
    .ok (Prompt.messages (.str (filenameOf b)) (.str (Window.joinChunks texts ++ ['\n', '\n']))
      (.ofString b.filetype) (.int row) (.int col) (.int 4) (.bool true))

/-- What came of starting a request. -/
inductive Start where
  /-- It is over, and its answer was taken over or not. -/
  | settled (committed : Bool)
  /-- The provider has to be asked. -/
  | asked (request : Nat) (messages : List Message)
deriving Inhabited

/-- Ask the provider. -/
def ask (s : Session) (id : String) (request : Nat) (key : String) (row col : Int) (b : Buffer) :
    Session × Start :=
  let s := s.noteRecords
    (Window.chunksLog b.lines (s.settings.value .windowSize) (s.settings.value .chunkSize))
  match s.messagesAt row col b with
  | .error e => (s.giveUp id request e source, .settled false)
  | .ok messages =>
    ({ s with requests := s.requests ++ [{ id := request, buffer := id, started := s.now, key }] },
      .asked request messages)

/-- Go on with a request from a cursor: take the answer from the cache, or ask. -/
def proceed (s : Session) (id : String) (request : Nat) (key : String) (row col : Int)
    (b : Buffer) : Session × Except Failure Start :=
  match s.cached key with
  | (s, none) =>
    let (s, start) := s.ask id request key row col b
    (s, .ok start)
  | (s, some answer) =>
    match (s.log .debug "Using cached suggestions").commit id request answer none with
    | (s, .ok committed) =>
      let (s, noted) := s.record id s.now true (s.context id).sets.length answer.length true
      (s, noted.map fun _ => .settled committed)
    | (s, .error (.fault f)) =>
      if f.kind = .responseDecode then
        let s := s.report
          (.ofFault .cacheFailure s!"Cached suggestions unusable: {f.message}" []) source
        let (s, start) := s.ask id request key row col b
        (s, .ok start)
      else (s, .error (.fault f))
    | (s, .error e) => (s, .error e)

/-- Give a buffer a new request, which makes those before it outdated. -/
def enter (s : Session) (id : String) : Session :=
  let s := s.touch id
  let request := s.lastRequest + 1
  { s with lastRequest := request }.changeContext id fun c =>
    { c with request, phase := .fetching }

/-- Start a request for a buffer. -/
def begin (s : Session) (id : String) : Session × Except Failure Start :=
  let s := (s.enter id).log .debug s!"Generating suggestions for {id}"
  let request := s.lastRequest
  match s.position id with
  | .error e => (s.giveUp id request e source, .ok (.settled false))
  | .ok (row, col, b) =>
    match Fingerprint.of row col b.lines with
    | .error e => (s, .error e)
    | .ok key => s.proceed id request key row col b

/-! ## What a provider reports -/

/-- A piece of an answer. -/
def deliver (s : Session) (request : Nat) (piece : Text) : Session :=
  s.changeRequest request fun r => { r with parts := r.parts ++ [piece] }

/-- The end of an answer. An answer that cannot be decoded is reported; any other failure is
handed to the provider. -/
def finish (s : Session) (request : Nat) : Session × Except Failure Unit :=
  match s.request? request with
  | none => (s, .ok ())
  | some r =>
    let answer := r.answer
    match s.commit r.buffer request answer (some r.key) with
    | (s, .ok committed) =>
      let s := s.changeRequest request fun r => { r with committed }
      s.record r.buffer r.started false (s.setCount r) answer.length true
    | (s, .error (.fault f)) =>
      if f.kind = .responseDecode then
        let s := s.giveUp r.buffer request (.fault f) s!"{source}:on_finish"
        s.record r.buffer r.started false 0 answer.length false
      else (s, .error (.fault f))
    | (s, .error e) => (s, .error e)

/-- The fault a failure of the provider is reported as. -/
def providerFault (s : Session) (e : Failure) : Failure :=
  match e with
  | .fault f => .fault f
  | e =>
    let told := e.quotedMessage
    .ofFault .providerConnection (if told.isEmpty then "unknown error" else told)
      [("provider", .ofString s.provider)]

/-- The provider failed. -/
def fail (s : Session) (request : Nat) (e : Failure) : Session × Except Failure Unit :=
  match s.request? request with
  | none => (s, .ok ())
  | some r =>
    if s.isCurrent r.buffer request then
      let s := s.giveUp r.buffer request (s.providerFault e) s!"{source}:on_error"
      s.record r.buffer r.started false 0 r.answer.length false
    else
      let told := e.quotedMessage
      (s.log .debug s!"Ignoring error from stale request: {told}", .ok ())

/-- The call of the provider broke. -/
def abort (s : Session) (request : Nat) (e : Failure) : Session × Except Failure Unit :=
  let told := e.quotedMessage
  s.fail request (.ofFault .providerConnection s!"Provider call failed: {told}"
    [("provider", .ofString s.provider)])

/-- A request is over; the flag tells whether its answer was taken over. -/
def conclude (s : Session) (request : Nat) : Session × Bool :=
  let committed := match s.request? request with
    | some r => r.committed
    | none => false
  ({ s with requests := s.requests.filter (·.id ≠ request) }, committed)

end Session

end GhostEdit
