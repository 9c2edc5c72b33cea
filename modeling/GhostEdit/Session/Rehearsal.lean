import GhostEdit.Session.Round
import GhostEdit.Session.Trigger

/-!
# Rehearsals

A rehearsal is a session whose provider plays a script: each call of the provider takes the next
response, delivers its pieces, may wait until it is released, and ends in one of four ways. A
guard may stand in front of the provider. When the script is used up the provider answers with
empty text.

## Main definitions

* `Ending`, `Response`, `Response.cutText`
* `Rehearsal`, `Rehearsal.suggest`, `Rehearsal.release`, `Rehearsal.fire`
-/

namespace GhostEdit

/-- How the call of a provider ends. -/
inductive Ending where
  /-- The answer is complete. -/
  | finish
  /-- A failure is reported. -/
  | error (e : Failure)
  /-- The call breaks. -/
  | raise (e : Failure)
  /-- The call is over and nothing is reported. -/
  | silence
deriving Inhabited

/-- One response of the script. -/
structure Response where
  pieces : List Text := []
  /-- Whether the call waits before it ends. -/
  held : Bool := false
  ending : Ending := .finish
deriving Inhabited

/-- The pieces of a text of at most `size` characters; for zero it stays whole. -/
def Response.cutText (size : Nat) (t : Text) : List Text :=
  if size = 0 then [t] else Window.cut size t

/-- A session with a provider that plays a script. -/
structure Rehearsal where
  session : Session
  script : List Response := []
  guarded : Option Guard := none
  /-- The calls that wait, in the order in which they arrived. -/
  held : List (Nat × Ending) := []
  /-- The messages of every call. -/
  calls : List (List Message) := []
deriving Inhabited

namespace Rehearsal

/-- What came of a request. -/
inductive Progress where
  | ended (committed : Bool)
  | pending
  | failed (e : Failure)
deriving Inhabited

/-- A request is over, with the outcome of its last event. -/
def conclude (r : Rehearsal) (request : Nat) (last : Session × Except Failure Unit) :
    Rehearsal × Progress :=
  match Session.settleRequest request last with
  | (session, .ok committed) => ({ r with session }, .ended committed)
  | (session, .error e) => ({ r with session }, .failed e)

/-- The last event reaches a request by way of the guard. -/
def observe (r : Rehearsal) (request : Nat) (e : StreamEvent) : Rehearsal × Progress :=
  match r.guarded with
  | none => r.conclude request (r.session.receive request e)
  | some g =>
    let (g, e) := g.observe r.session.now e
    { r with guarded := some g }.conclude request (r.session.receive request e)

/-- The call for a request ends. -/
def close (r : Rehearsal) (request : Nat) : Ending → Rehearsal × Progress
  | .finish => r.observe request .finished
  | .error e => r.observe request (.failed e)
  | .raise e => r.observe request (.broke e)
  | .silence => r.conclude request (r.session, .ok ())

/-- The provider is called for a request. -/
def call (r : Rehearsal) (request : Nat) (messages : List Message) : Rehearsal × Progress :=
  let response := r.script.headD {}
  let s := response.pieces.foldl (fun s piece => s.deliver request piece) r.session
  let r := { r with session := s, script := r.script.drop 1, calls := r.calls ++ [messages] }
  if response.held then
    ({ r with held := r.held ++ [(request, response.ending)] }, .pending)
  else r.close request response.ending

/-- A request reaches the guard, or the provider if there is none. -/
def reach (r : Rehearsal) (request : Nat) (messages : List Message) : Rehearsal × Progress :=
  match r.guarded with
  | none => r.call request messages
  | some g =>
    let (g, refusal) := g.letThrough r.session.now
    let r := { r with guarded := some g }
    match refusal with
    | none => r.call request messages
    | some e => r.conclude request (r.session.receive request (.failed e))

/-- Start a request for a buffer. -/
def suggest (r : Rehearsal) (id : String) : Rehearsal × Progress :=
  match r.session.begin id with
  | (s, .error e) => ({ r with session := s }, .failed e)
  | (s, .ok (.settled committed)) => ({ r with session := s }, .ended committed)
  | (s, .ok (.asked request messages)) => { r with session := s }.reach request messages

/-- Let the waiting call with an index end; the result tells what came of every call that
waited. -/
def release (r : Rehearsal) (index : Nat) : Option (Rehearsal × List Progress) :=
  match r.held[index]? with
  | none => none
  | some (request, ending) =>
    let waiting := r.held.map (·.1)
    let (r, progress) := { r with held := r.held.eraseIdx index }.close request ending
    some (r, waiting.map fun id => if id = request then progress else .pending)

/-- Start the requests for buffers in order. -/
def suggestAll : Rehearsal → List String → Rehearsal × List Progress
  | r, [] => (r, [])
  | r, id :: rest =>
    let (r, progress) := r.suggest id
    let (r, more) := suggestAll r rest
    (r, progress :: more)

/-- All timers expire and the requests that are due start, if there is a loop to run them. -/
def fire (r : Rehearsal) (loop : Bool) : Rehearsal × Except Failure (Nat × List Progress) :=
  match r.session.fire loop with
  | (s, .error e) => ({ r with session := { s with queued := [] } }, .error e)
  | (s, .ok ran) =>
    let (r, progress) := { r with session := { s with queued := [] } }.suggestAll s.queued
    (r, .ok (ran, progress))

end Rehearsal

end GhostEdit
