import GhostEdit.Failure

/-!
# Reporting faults

Every reported failure is logged. One whose kind concerns the user is also shown, but each
message only once in a session. A failure that is no fault is reported as a general one.

## Main definitions

* `Reporter`, `Reporter.report`, `Reporter.notifyOnce`
-/

namespace GhostEdit

/-- The messages shown so far. -/
structure Reporter where
  /-- Whether there is a user to show messages to. -/
  audible : Bool := true
  seen : List String := []
deriving Inhabited

namespace Reporter

/-- Show a message unless it was shown before; the flag tells whether it was new. -/
def notifyOnce (r : Reporter) (message : String) (level : Int) :
    Reporter × List Entry × Bool :=
  if r.seen.contains message then (r, [], false)
  else
    ({ r with seen := message :: r.seen },
      if r.audible then [.notice message level] else [], true)

/-- The fault a failure is reported as. The name of its kind stands in front of the message of a
failure from outside. -/
def faultOf : Failure → Fault
  | .fault f => f
  | .raised kind message =>
    let told := (Failure.raised kind message).quotedMessage
    { kind := .general, message := s!"{kind}: {told}" }
  | other => { kind := .general, message := other.message }

/-- How a fault is told: its code, its message and where it came from. -/
def line (f : Fault) (source : String) : String :=
  let told := s!"[{f.kind.code}] {f.message}"
  if source.isEmpty then told else s!"{told} (source: {source})"

/-- Report a failure: log it, and show it if its kind asks for that. -/
def report (r : Reporter) (e : Failure) (source : String) : Reporter × List Entry :=
  let f := faultOf e
  let told := line f source
  let logged : Entry := .log ⟨f.kind.severity, .faults, told⟩
  if f.kind.surfaced then
    let (r, notes, _) := r.notifyOnce told f.kind.severity.level
    (r, logged :: notes)
  else (r, [logged])

/-- Forget the messages shown so far. -/
def reset (r : Reporter) : Reporter := { r with seen := [] }

end Reporter

end GhostEdit
