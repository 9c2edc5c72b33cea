import GhostEdit.Provider.Stream
import GhostEdit.Session.Fetch

/-!
# A whole round

A round starts a request and follows the stream of the provider to its end, with nothing in
between.

## Main definitions

* `Session.receive`, `Session.follow`: the events of a stream reach a request
* `Session.round`
-/

namespace GhostEdit

namespace Session

/-- An outcome of what a provider reports: a failure breaks the call. -/
def orAbort (request : Nat) : Session × Except Failure Unit → Session × Except Failure Unit
  | (s, .ok ()) => (s, .ok ())
  | (s, .error e) => s.abort request e

/-- An event of the stream reaches its request. -/
def receive (s : Session) (request : Nat) : StreamEvent → Session × Except Failure Unit
  | .chunk piece => (s.deliver request piece, .ok ())
  | .finished => orAbort request (s.finish request)
  | .failed e => orAbort request (s.fail request e)
  | .broke e => s.abort request e

/-- The events of a stream reach their request one after the other, up to a failure. -/
def follow (request : Nat) : Session → List StreamEvent → Session × Except Failure Unit
  | s, [] => (s, .ok ())
  | s, e :: rest =>
    match s.receive request e with
    | (s, .error e) => (s, .error e)
    | (s, .ok ()) => follow request s rest

/-- A request is over, with the outcome of its last event; the flag tells whether its answer was
taken over. -/
def settleRequest (request : Nat) :
    Session × Except Failure Unit → Session × Except Failure Bool
  | (s, outcome) =>
    let (s, committed) := s.conclude request
    (s, outcome.map fun _ => committed)

/-- A round for a buffer, where `stream` is what the provider answers to messages; the result
tells whether suggestions were taken over. -/
def round (s : Session) (id : String) (stream : List Message → List StreamEvent) :
    Session × Except Failure Bool :=
  match s.begin id with
  | (s, .error e) => (s, .error e)
  | (s, .ok (.settled committed)) => (s, .ok committed)
  | (s, .ok (.asked request messages)) =>
    settleRequest request (follow request s (stream messages))

end Session

end GhostEdit
