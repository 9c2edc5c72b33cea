import GhostEdit.Text.Casing
import GhostEdit.Value.Arithmetic

/-!
# Log levels

A log level is given by an integer or by a name in any case. A name that is not known stands for
warnings; a truth value counts as the integer it stands for, and any other value is refused.

## Main definitions

* `Verbosity.resolve`: the level that a value states
* `Verbosity.threshold`: the number of a level
-/

namespace GhostEdit

namespace Verbosity

/-- The levels that have a name. -/
def named : List (String × Int) :=
  [("CRITICAL", 50), ("FATAL", 50), ("ERROR", 40), ("WARNING", 30), ("WARN", 30), ("INFO", 20),
   ("DEBUG", 10), ("NOTSET", 0)]

/-- The level of warnings. -/
def warning : Int := 30

/-- The level that a value states: an integer, or a truth value as it is given. -/
def resolve (v : Value) : Except Failure Value :=
  match v with
  | .str name => .ok (.int ((named.lookup (String.ofList name.upper)).getD warning))
  | .codes _ => .ok (.int warning)
  | v =>
    if v.int?.isSome then .ok v
    else .error (.mismatch (.notLevel (String.ofList v.display)))

/-- The number of a level. -/
def threshold (level : Value) : Int := level.int?.getD warning

end Verbosity

end GhostEdit
