import GhostEdit.Command.Arguments
import GhostEdit.Command.Setup
import GhostEdit.Session.Review
import GhostEdit.Session.Round
import GhostEdit.Verbosity

/-!
# The command that suggests

A file is opened, the cursor is put in place and one round runs. The first suggestion set is shown
as ghost text; after that it can be reviewed with keys or accepted as a whole, and the result can
be written back.

## Main definitions

* `Suggest.acceptAll`: accept until the set is used up
* `Suggest.Reviewer`, `Suggest.review`: press keys one after the other
* `Suggest.run`
-/

namespace GhostEdit

namespace Suggest

open Console

/-- Accept items until none is left. The cursor may jump once between two items; any other outcome
ends the loop and is told. The first argument bounds the number of steps. -/
def acceptWithin (id : String) :
    Nat → Bool → Session → Session × Except Failure (Option Session.Outcome)
  | 0, _, s => (s, .ok none)
  | fuel + 1, jumped, s =>
    match s.current? id with
    | none => (s, .ok none)
    | some [] => (s, .ok none)
    | some (_ :: _) =>
      match s.accept id with
      | (s, .error e) => (s, .error e)
      | (s, .ok .applied) => acceptWithin id fuel false s
      | (s, .ok .jumped) =>
        if jumped then (s, .ok (some .jumped)) else acceptWithin id fuel true s
      | (s, .ok outcome) => (s, .ok (some outcome))

/-- Accept items until none is left: each needs one step, and at most one jump before it. -/
def acceptAll (s : Session) (id : String) : Session × Except Failure (Option Session.Outcome) :=
  acceptWithin id (2 * ((s.current? id).getD []).length + 1) false s

/-- Press key sequences until one of them leaves the review. -/
def pressAll (bindings : List Keys.Binding) (id : String) :
    List (List Text) → Session → Session × Except Failure Unit
  | [], s => (s, .ok ())
  | keys :: rest, s =>
    match Review.pressWith bindings s id keys with
    | (s, .error e) => (s, .error e)
    | (s, .ok .exit) => (s, .ok ())
    | (s, .ok _) => pressAll bindings id rest s

/-- What a review makes of a session that has suggestions for a buffer. -/
abbrev Reviewer := Session → String → Session × Except Failure Unit

/-- Review the suggestions of a buffer with the given key sequences. -/
def review (s : Session) (id : String) (presses : List (List Text)) :
    Session × Except Failure Unit :=
  match Review.start s with
  | (s, .error e) => (s, .error e)
  | (s, .ok bindings) => pressAll bindings id presses s

/-- The guard in front of a provider. -/
def guardOf (s : Settings) (name : String) : Guard :=
  { name
    offline := s.isOn .offline
    breaker := { threshold := s.value .failThreshold, cooldown := s.value .cooldown } }

/-- What a guarded provider streams for a request. -/
def streamOf (w : World) (s : Settings) (p : Provider) : List StreamEvent :=
  ((guardOf s p.name).call .zero
    (Stream.run p.name p.available w.reply.pieces w.reply.breaks)).2

/-- The ghost text on a console: without styles and carriage returns. -/
def ghostText (b : Buffer) : Except Failure Text :=
  (Fragment.draw .standard b.lines b.overlay).map fun fs => (Fragment.plain fs).filter (· ≠ '\r')

/-- Open the file with the cursor in place. -/
def openFile (w : World) (o : SuggestOptions) (files : Files) : Run (Buffers × String) := do
  let (bs, id) ← need (({} : Buffers).openFile files w.directory o.path)
  let b ← need (bs.get id)
  let count := b.lines.length
  if o.line < 1 || (count : Int) < o.line then
    let shown := String.ofList o.path.toText
    warn s!"Line {o.line} is outside {shown} ({count} lines)"
    stop 2
  let row ← need (Layout.rowAt b.lines o.line)
  let ending ← need row.length
  let b ← need (b.setCursor o.line (o.col.getD ending))
  pure (bs.put id b.startInsert, id)

/-- The provider to ask, or the advice to set one up. -/
def chooseProvider (w : World) (s : Settings) (level : Int) : Run Provider := do
  report w.stamp level ((Provider.selectLog s w.environment).map .log)
  match Provider.select s w.environment with
  | .ok p => pure p
  | .error (.fault f) =>
    warn s!"❌ {f.message} - set API keys or run 'doctor'"
    stop 1
  | .error e => throw (.broken e)

/-- Let the user choose from what a session offers; without a wish to accept, this is the end. -/
def choose (w : World) (o : SuggestOptions) (reviewer : Reviewer) (level : Int) (s : Session)
    (id : String) : Run Session := do
  if o.interactive then
    let (s, r) := reviewer s id
    report w.stamp level s.journal
    need r
    pure s
  else if o.acceptAll then
    let (s, r) := acceptAll s id
    report w.stamp level s.journal
    match ← need r with
    | some outcome => warn s!"⚠️  Stopped accepting: {outcome.name}"
    | none => pure ()
    pure s
  else stop 0

/-- Show the buffer after accepting and write it back if that is wanted. -/
def finish (w : World) (o : SuggestOptions) (s : Session) (id : String) : Run Unit := do
  let b ← need (s.buffers.get id)
  say "\nAfter accepting:"
  let codes ← need b.text
  sayText (← need (Value.encodable codes))
  if o.write then
    let (files, saved) := s.buffers.save (← get).files w.directory id
    modify fun c => { c with files }
    let (_, path) ← need saved
    say s!"✅ Wrote {path}"

/-- Run one round at a cursor and show the result. -/
def run (w : World) (o : SuggestOptions) (reviewer : Reviewer) : Run Unit := do
  let files := (← get).files
  let settings ← need (Setup.settings w files o.config)
  let level ← need (Verbosity.resolve
    (if o.verbose then .int Severity.debug.level else settings.value .logLevel))
  let level := Verbosity.threshold level
  let (rules, records) :=
    IgnoreRules.load files w.directory w.cwd (settings.value .ignoredGlobs) w.resolve
  report w.stamp level (records.map .log)
  let rules ← need rules
  let shown := String.ofList o.path.toText
  if settings.isOn .respectIgnore then
    if ← need (rules.isIgnored w.cwd o.path.toText) then
      say s!"{shown} is ignored, no suggestions"
      stop 1
  let (buffers, id) ← openFile w o files
  let provider ← chooseProvider w settings level
  let session ← need (Session.new settings provider.name .zero)
  let session := { session with buffers, rules := some rules, directory := w.cwd }
  let (session, committed) := session.round id fun _ => streamOf w settings provider
  report w.stamp level session.journal
  let committed ← need committed
  if settings.isOn .showMetrics then warn session.metrics.summary
  if !committed then stop 1
  let count := (session.context id).sets.length
  say s!"{count} suggestion set(s), showing 1"
  let b ← need (session.buffers.get id)
  put (← need (ghostText b))
  let session ← choose w o reviewer level { session with journal := [] } id
  finish w o session id

end Suggest

end GhostEdit
