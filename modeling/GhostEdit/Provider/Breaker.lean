import GhostEdit.Clock

/-!
# The circuit breaker

After a number of failures in a row the breaker opens and lets no call through until a cooldown
has passed; then it lets calls through again, and the first failure opens it anew.

## Main definitions

* `Breaker`, `Breaker.attempt`, `Breaker.recordSuccess`, `Breaker.recordFailure`
-/

namespace GhostEdit

/-- The positions of a breaker. -/
inductive BreakerState where
  | closed
  | open
  | halfOpen
deriving DecidableEq, Repr, Inhabited

/-- The name of a position. -/
def BreakerState.name : BreakerState → String
  | .closed => "closed"
  | .open => "open"
  | .halfOpen => "half_open"

/-- A circuit breaker. -/
structure Breaker where
  /-- The number of failures that open it. -/
  threshold : Value
  /-- The seconds for which it stays open. -/
  cooldown : Value
  state : BreakerState := .closed
  failures : Nat := 0
  lastFailure : Seconds := .zero
  nextAttempt : Seconds := .zero
deriving Inhabited

namespace Breaker

/-- Ask whether a call may go through. -/
def attempt (b : Breaker) (now : Seconds) : Breaker × Bool :=
  match b.state with
  | .closed => (b, true)
  | .halfOpen => (b, true)
  | .open => if b.nextAttempt ≤ now then ({ b with state := .halfOpen }, true) else (b, false)

/-- Note a call that succeeded. -/
def recordSuccess (b : Breaker) : Breaker := { b with failures := 0, state := .closed }

/-- Whether one more failure opens the breaker; one that lets calls through on trial opens at
once. -/
def opens (b : Breaker) : Except Failure Bool :=
  if b.state = .halfOpen then .ok true
  else Value.compare .greaterEq (.int (b.failures + 1 : Nat)) b.threshold

/-- Note a call that failed. What was noted before the threshold or the cooldown turns out to be no
number stays noted. -/
def recordFailure (b : Breaker) (now : Seconds) : Breaker × Except Failure Unit :=
  let noted := { b with failures := b.failures + 1, lastFailure := now }
  match b.opens with
  | .error e => (noted, .error e)
  | .ok false => (noted, .ok ())
  | .ok true =>
    let opened := { noted with state := .open }
    match now.later b.cooldown with
    | .error e => (opened, .error e)
    | .ok next => ({ opened with nextAttempt := next }, .ok ())

end Breaker

end GhostEdit
