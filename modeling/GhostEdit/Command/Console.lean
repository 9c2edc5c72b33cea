import GhostEdit.Files
import GhostEdit.Journal
import GhostEdit.Provider.Catalog
import GhostEdit.Toml.Library

/-!
# The console of a command

A command sees files, an environment and the answers of the provider, and writes to two streams.
Its messages are written without escape sequences. It ends by itself with a code, or breaks with a
failure.

## Main definitions

* `World`, `Console`, `Console.Stop`
* `Console.Run`: a computation that writes to a console and may end early
* `Console.report`: the entries of a journal on the stream for errors
-/

namespace GhostEdit

/-- What the provider streams for one request: pieces of text, and what breaks the stream. -/
structure Reply where
  pieces : List Text := []
  breaks : Option Failure := none
deriving Inhabited

/-- What a command finds when it starts. -/
structure World where
  /-- The directory it runs in, from the top of the tree. -/
  directory : List Text
  /-- The home directory of the user. -/
  home : Path
  environment : Environment
  reply : Reply := {}
  /-- The key sequences the user presses in a review. -/
  presses : List (List Text) := []
  /-- The time in front of log lines. -/
  stamp : String := ""
  /-- Where paths lead. -/
  resolve : Path.Resolver := Path.unlinked
  /-- What configuration files are read and written with. -/
  toml : Toml.Library := Toml.own
deriving Inhabited

namespace World

/-- The path of the directory a command runs in. -/
def cwd (w : World) : Path := ⟨['/'], w.directory⟩

/-- The configuration file of the user. -/
def configPath (w : World) : Path := w.home.append ⟨[], [".cli_ai_suggest.toml".toList]⟩

end World

/-- What a command has written. -/
structure Console where
  output : Text := []
  errors : Text := []
  files : Files := {}
deriving Inhabited

namespace Console

/-- How a command ends before its last step. -/
inductive Stop where
  | code (n : Nat)
  | broken (e : Failure)
deriving Inhabited

/-- A computation that writes to a console and may end early. -/
abbrev Run := ExceptT Stop (StateM Console)

/-- The text after an escape sequence that starts it: after the bracket parameters, and then a
letter. -/
def afterSequence? (t : Text) : Option Text :=
  match t with
  | '\x1b' :: '[' :: rest =>
    match rest.dropWhile fun c => c = ';' || c = '?' || ('0' ≤ c && c ≤ '9') with
    | c :: after => if c.isAlpha then some after else none
    | [] => none
  | _ => none

/-- A text without escape sequences that set colours and the like; the first argument bounds the
number of steps. -/
def unstyledWithin : Nat → Text → Text
  | 0, _ => []
  | _ + 1, [] => []
  | fuel + 1, c :: rest =>
    match afterSequence? (c :: rest) with
    | some after => unstyledWithin fuel after
    | none => c :: unstyledWithin fuel rest

/-- A text without escape sequences that set colours and the like. -/
def unstyled (t : Text) : Text := unstyledWithin t.length t

/-- Write text and a line feed as output, just as it is. -/
def put (t : Text) : Run Unit := modify fun c => { c with output := c.output ++ t ++ ['\n'] }

/-- Write a text and a line feed as output. -/
def sayText (t : Text) : Run Unit := put (unstyled t)

/-- Write a line of output. -/
def say (line : String) : Run Unit := sayText line.toList

/-- Write a line to the stream for errors, just as it is. -/
def putError (t : Text) : Run Unit := modify fun c => { c with errors := c.errors ++ t ++ ['\n'] }

/-- Write a line to the stream for errors. -/
def warn (line : String) : Run Unit := putError (unstyled line.toList)

/-- End with a code. -/
def stop {α : Type} (n : Nat) : Run α := throw (.code n)

/-- The result of an operation that may fail. -/
def need {α : Type} : Except Failure α → Run α
  | .ok x => pure x
  | .error e => throw (.broken e)

/-- The line of a log record. -/
def logLine (stamp : String) (r : Record) : String :=
  let label := r.severity.label
  let channel := r.channel.name
  s!"{stamp} {label} {channel}: {r.message}"

/-- Write an entry to the stream for errors, if it is shown: a notice always is, a record from its
level on. -/
def reportEntry (stamp : String) (level : Int) : Entry → Run Unit
  | .notice message _ => warn message
  | .log r => if level ≤ r.severity.level then putError (logLine stamp r).toList else pure ()

/-- Write the entries of a journal to the stream for errors. -/
def report (stamp : String) (level : Int) (entries : List Entry) : Run Unit :=
  entries.forM (reportEntry stamp level)

end Console

end GhostEdit
