import GhostEdit.Keys.Basic
import GhostEdit.Overlay.Fragment
import GhostEdit.Session.Accept

/-!
# Reviewing suggestions

A review shows one buffer with its overlay and a status line, and lets keys act on it.

## Main definitions

* `Review.body`, `Review.status`
* `Review.press`: what a key sequence does
-/

namespace GhostEdit

namespace Review

/-- The buffer with its overlay. -/
def body (s : Session) (id : String) : Except Failure (List Fragment) :=
  match s.buffers.get? id with
  | none => .error (.noField "NoneType" "lines")
  | some b => Fragment.draw .standard b.lines b.overlay

/-- What the status line tells about the suggestions. -/
def info (c : Context) : String :=
  match c.current? with
  | some (item :: rest) =>
    let selected := c.index + 1
    let count := c.sets.length
    let items := (item :: rest).length
    s!" Set {selected}/{count}, {items} item(s)"
  | _ => " No suggestions"

/-- What the status line tells about the keys. -/
def keyHelp (s : Settings) : String :=
  let accept := s.shown .acceptKey
  let next := s.shown .nextKey
  let prev := s.shown .prevKey
  let dismiss := s.shown .dismissKey
  s!"{accept} accept  {next}/{prev} cycle  {dismiss} dismiss  q quit"

/-- The status line. Looking at it gives the buffer a context. -/
def status (s : Session) (id : String) : Session × List Fragment :=
  let s := s.touch id
  let told := info (s.context id)
  let keys := keyHelp s.settings
  (s, [.ofText "reverse" s!"{told}  |  {keys} ".toList])

/-- What came of a key sequence. -/
inductive Press where
  | handled
  | exit
  | unbound
deriving DecidableEq, Repr, Inhabited

/-- Act on the suggestions of a buffer. -/
def act (s : Session) (id : String) : Action → Session × Except Failure Press
  | .accept =>
    let (s, r) := s.accept id
    (s, r.map fun _ => .handled)
  | .next =>
    let (s, r) := s.next id
    (s, r.map fun _ => .handled)
  | .prev =>
    let (s, r) := s.prev id
    (s, r.map fun _ => .handled)
  | .dismiss => (s.dismiss id, .ok .handled)
  | .quit => (s, .ok .exit)

/-- Press a key sequence while the given bindings are in force. -/
def pressWith (bindings : List Keys.Binding) (s : Session) (id : String) (keys : List Text) :
    Session × Except Failure Press :=
  match Keys.actionOf? bindings keys with
  | some action => act s id action
  | none => (s, .ok .unbound)

/-- Start a review with its bindings. -/
def start (s : Session) : Session × Except Failure (List Keys.Binding) :=
  let (bindings, records) := Keys.reviewBindings s.settings
  (s.noteRecords records, bindings)

/-- Press a key sequence in a review of a buffer. -/
def press (s : Session) (id : String) (keys : List Text) : Session × Except Failure Press :=
  match start s with
  | (s, .error e) => (s, .error e)
  | (s, .ok bindings) => pressWith bindings s id keys

end Review

end GhostEdit
