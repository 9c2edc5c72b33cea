import GhostEdit.Path
import GhostEdit.Text.Numeral

/-!
# The arguments of a command line

A command takes options and positional arguments in any order. A long option starts with two
hyphens and may have its value after an equals sign; short options are single letters after one
hyphen, several of which may stand together as long as only the last takes a value. Two hyphens
alone end the options.

## Main definitions

* `Switch`, `Arguments.scan`: the options and positional arguments of a list
* `Arguments.path?`: the path an argument states
* `Command`, `Command.parse?`: the command of a command line, if it can be used
-/

namespace GhostEdit

/-- The options that commands know. -/
inductive Switch where
  | line
  | col
  | acceptAll
  | write
  | interactive
  | config
  | verbose
  | path
  | force
deriving DecidableEq, Repr, Inhabited

namespace Switch

/-- The long name of an option. -/
def long : Switch → String
  | .line => "--line"
  | .col => "--col"
  | .acceptAll => "--accept-all"
  | .write => "--write"
  | .interactive => "--interactive"
  | .config => "--config"
  | .verbose => "--verbose"
  | .path => "--path"
  | .force => "--force"

/-- The letter of an option, if it has one. -/
def letter? : Switch → Option Char
  | .line => some 'l'
  | .col => some 'c'
  | .interactive => some 'i'
  | .verbose => some 'v'
  | _ => none

/-- Whether an option takes a value. -/
def takesValue : Switch → Bool
  | .line => true
  | .col => true
  | .config => true
  | .path => true
  | _ => false

end Switch

namespace Arguments

/-- What a list of arguments holds: options with their values, and positional arguments. -/
structure Scan where
  options : List (Switch × Text) := []
  positional : List Text := []
deriving DecidableEq, Inhabited

/-- Note an option in front of what follows. -/
def Scan.withOption (s : Scan) (key : Switch) (value : Text) : Scan :=
  { s with options := (key, value) :: s.options }

/-- Note a positional argument in front of what follows. -/
def Scan.withPositional (s : Scan) (t : Text) : Scan := { s with positional := t :: s.positional }

/-- The value of an option, of which the last counts. -/
def Scan.value? (s : Scan) (key : Switch) : Option Text :=
  (s.options.reverse.find? (·.1 = key)).map (·.2)

/-- Whether an option is given. -/
def Scan.has (s : Scan) (key : Switch) : Bool := s.options.any (·.1 = key)

/-- A text cut at its first equals sign. -/
def cutAtEquals (t : Text) : Text × Option Text :=
  match t.dropWhile (· ≠ '=') with
  | [] => (t, none)
  | _ :: rest => (t.takeWhile (· ≠ '='), some rest)

/-- What an argument that starts with a hyphen says. -/
inductive Reading where
  /-- Options without values or with the values given. -/
  | complete (options : List (Switch × Text))
  /-- Options of which the last takes the next argument as its value. -/
  | wanting (options : List (Switch × Text)) (last : Switch)
deriving DecidableEq, Inhabited

/-- Put an option in front of a reading. -/
def Reading.prepend (key : Switch) : Reading → Reading
  | .complete options => .complete ((key, []) :: options)
  | .wanting options last => .wanting ((key, []) :: options) last

/-- Read letters as short options. -/
def readLetters (known : List Switch) : Text → Option Reading
  | [] => some (.complete [])
  | c :: rest =>
    match known.find? (·.letter? = some c) with
    | none => none
    | some key =>
      if key.takesValue then
        some (if rest.isEmpty then .wanting [] key else .complete [(key, rest)])
      else (readLetters known rest).map (Reading.prepend key)

/-- Read a long option. -/
def readLong (known : List Switch) (t : Text) : Option Reading :=
  let (name, value) := cutAtEquals t
  match known.find? (·.long.toList = name) with
  | none => none
  | some key =>
    match key.takesValue, value with
    | true, some v => some (.complete [(key, v)])
    | true, none => some (.wanting [] key)
    | false, some _ => none
    | false, none => some (.complete [(key, [])])

/-- Read an argument that starts with a hyphen. -/
def read (known : List Switch) (t : Text) : Option Reading :=
  match t with
  | '-' :: '-' :: _ => readLong known t
  | _ => readLetters known (t.drop 1)

/-- Put options in front of what follows. -/
def withOptions (options : List (Switch × Text)) (s : Scan) : Scan :=
  { s with options := options ++ s.options }

/-- The options and positional arguments of a list; nothing if an option is not known, misses its
value or has one it does not take. -/
def scan (known : List Switch) : List Text → Option Scan
  | [] => some {}
  | [t] =>
    if t = ['-', '-'] then some {}
    else if t.head? = some '-' && 1 < t.length then
      match read known t with
      | some (.complete options) => some (withOptions options {})
      | _ => none
    else some (Scan.withPositional {} t)
  | t :: next :: rest =>
    if t = ['-', '-'] then some { positional := next :: rest }
    else if t.head? = some '-' && 1 < t.length then
      match read known t with
      | some (.complete options) => (scan known (next :: rest)).map (withOptions options)
      | some (.wanting options last) =>
        (scan known rest).map fun s => withOptions options (s.withOption last next)
      | none => none
    else (scan known (next :: rest)).map (·.withPositional t)

/-- The path that an argument states; it has no null character. -/
def path? (t : Text) : Option Path := if t.contains '\x00' then none else some (.ofText t)

/-- The value of an option that may be missing, but not be wrong. -/
def optional? {α : Type} (s : Scan) (key : Switch) (read : Text → Option α) :
    Option (Option α) :=
  match s.value? key with
  | none => some none
  | some t => (read t).map some

end Arguments

/-- What a round of suggestions is asked for. -/
structure SuggestOptions where
  path : Path
  line : Int
  col : Option Int := none
  acceptAll : Bool := false
  write : Bool := false
  interactive : Bool := false
  config : Option Path := none
  verbose : Bool := false
deriving DecidableEq, Inhabited

/-- The commands. -/
inductive Command where
  /-- Run one round at a cursor and show the result. -/
  | suggest (options : SuggestOptions)
  /-- Write the standard configuration file. -/
  | initConfig (path : Option Path) (force : Bool)
  /-- Tell what the environment offers. -/
  | doctor
deriving DecidableEq, Inhabited

namespace Command

open Arguments

/-- The options of a round. -/
def suggestOptions? (arguments : List Text) : Option SuggestOptions := do
  let s ← scan [.line, .col, .acceptAll, .write, .interactive, .config, .verbose] arguments
  let line ← (s.value? .line).bind Numeral.tidy?
  let col ← optional? s .col Numeral.tidy?
  let config ← optional? s .config path?
  match s.positional with
  | [path] =>
    let path ← path? path
    some
      { path, line, col, config
        acceptAll := s.has .acceptAll
        write := s.has .write
        interactive := s.has .interactive
        verbose := s.has .verbose }
  | _ => none

/-- The command with a name and its arguments. -/
def ofName? (name : Text) (arguments : List Text) : Option Command :=
  match String.ofList name with
  | "suggest" => (suggestOptions? arguments).map .suggest
  | "init-config" => do
    let s ← scan [.path, .force] arguments
    let path ← optional? s .path path?
    if s.positional.isEmpty then some (.initConfig path (s.has .force)) else none
  | "doctor" => do
    let s ← scan [] arguments
    if s.positional.isEmpty then some .doctor else none
  | _ => none

/-- The command of a command line, if it can be used. -/
def parse? : List Text → Option Command
  | ['-', '-'] :: name :: arguments => ofName? name arguments
  | name :: arguments => ofName? name arguments
  | [] => none

end Command

end GhostEdit
