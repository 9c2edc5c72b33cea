import GhostEdit.Failure
import GhostEdit.Provider.Breaker

/-!
# Streams of completions

A provider answers a request with a stream: pieces of text, then the end or a failure. A guard
in front of a provider stops requests while it is offline or while its breaker is open, and
tells the breaker how each request ended.

## Main definitions

* `StreamEvent`, `Stream.run`: the events of a provider's stream
* `Guard`, `Guard.letThrough`, `Guard.observe`, `Guard.call`
-/

namespace GhostEdit

/-- What a provider reports about a request. -/
inductive StreamEvent where
  | chunk (t : Text)
  | finished
  | failed (e : Failure)
  /-- The call itself broke, and the provider reported nothing. -/
  | broke (e : Failure)
deriving Inhabited

namespace Stream

/-- The failure of a provider that cannot be used. -/
def unavailable (name : String) : Failure :=
  .ofFault .providerConnection s!"Provider {name} is not available" []

/-- The failure of a request that broke. -/
def broken (name : String) (cause : Failure) : Failure :=
  let told := cause.quotedMessage
  .ofFault .providerConnection s!"{name} request failed: {told}" [("provider", .ofString name)]

/-- The events of a stream that delivers pieces and then ends or breaks; empty pieces do not
count. -/
def run (name : String) (available : Bool) (pieces : List Text) (breaks : Option Failure) :
    List StreamEvent :=
  if available then
    (pieces.filter (!·.isEmpty)).map .chunk ++
      [match breaks with
        | some cause => .failed (broken name cause)
        | none => .finished]
  else [.failed (unavailable name)]

end Stream

/-- A provider behind an offline switch and a breaker. -/
structure Guard where
  name : String
  offline : Bool := false
  breaker : Breaker
deriving Inhabited

namespace Guard

/-- Let a request through, or say why not. -/
def letThrough (g : Guard) (now : Seconds) : Guard × Option Failure :=
  if g.offline then (g, some (.ofFault .providerConnection "AI is in offline mode" []))
  else
    let (breaker, through) := g.breaker.attempt now
    ({ g with breaker },
      if through then none
      else some (.ofFault .providerConnection s!"Circuit breaker is OPEN for {g.name}" []))

/-- Tell the breaker about an event. The event then reaches the caller, unless the breaker cannot
deal with it. -/
def observe (g : Guard) (now : Seconds) : StreamEvent → Guard × StreamEvent
  | .chunk t => (g, .chunk t)
  | .finished => ({ g with breaker := g.breaker.recordSuccess }, .finished)
  | .failed e =>
    match g.breaker.recordFailure now with
    | (breaker, .ok ()) => ({ g with breaker }, .failed e)
    | (breaker, .error cause) => ({ g with breaker }, .broke cause)
  | .broke e => (g, .broke e)

/-- Tell the breaker about events in order, with the events that reach the caller. -/
def observeAll (now : Seconds) : Guard → List StreamEvent → Guard × List StreamEvent
  | g, [] => (g, [])
  | g, e :: rest =>
    let (g, e) := g.observe now e
    let (g, more) := observeAll now g rest
    (g, e :: more)

/-- A whole request: the events that reach the caller when the provider's own are given. -/
def call (g : Guard) (now : Seconds) (events : List StreamEvent) : Guard × List StreamEvent :=
  match g.letThrough now with
  | (g, some e) => (g, [.failed e])
  | (g, none) => observeAll now g events

end Guard

end GhostEdit
