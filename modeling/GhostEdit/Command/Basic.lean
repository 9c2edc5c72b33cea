import GhostEdit.Command.Suggest

/-!
# Running a command line

## Main definitions

* `Command.Result`, `Command.run`: what comes of a command line
-/

namespace GhostEdit

namespace Command

/-- How a command line ended. -/
inductive Result where
  /-- It cannot be used. -/
  | misused
  /-- It ended with a code. -/
  | exited (code : Nat)
  /-- It broke. -/
  | broke (e : Failure)
deriving Inhabited

/-- Carry a command out. -/
def perform (w : World) : Command → Console.Run Unit
  | .suggest options => Suggest.run w options fun s id => Suggest.review s id w.presses
  | .initConfig path force => Setup.initConfig w path force
  | .doctor => Setup.doctor w

/-- What comes of a command line in a tree of files. -/
def run (w : World) (files : Files) (arguments : List Text) : Result × Console :=
  match parse? arguments with
  | none => (.misused, { files })
  | some command =>
    match (perform w command).run.run { files } with
    | (.ok (), console) => (.exited 0, console)
    | (.error (.code n), console) => (.exited n, console)
    | (.error (.broken e), console) => (.broke e, console)

end Command

end GhostEdit
