import GhostEdit.Path
import GhostEdit.Text.Utf8

/-!
# A tree of files

The files that a program can see, as a value: paths from the top of the tree with their bytes.
A directory exists when it is listed or when something is listed below it. Looking a path up
walks it step by step, so that two dots need a directory to climb out of. No name is longer than
255 bytes and no path reaches 4096, and no path has a null character.

## Main definitions

* `FileBody`, `Files`, `Files.kindOf`, `Files.holds`
* `Files.read`, `Files.readText`: the bytes and the text of a file
* `Files.write`, `Files.writeText`: put a file in a directory that exists
* `Files.makeDirectory`: make a directory
-/

namespace GhostEdit

/-- What a path leads to. -/
inductive FileBody where
  | file (bytes : List UInt8)
  | directory
deriving DecidableEq, Inhabited

/-- A tree of files, by the components of their paths. -/
structure Files where
  entries : List (List Text × FileBody) := []
deriving Inhabited

namespace Files

/-- What stands at a path without dots. -/
def at? (fs : Files) (parts : List Text) : Option FileBody :=
  match fs.entries.lookup parts with
  | some body => some body
  | none =>
    if parts.isEmpty || fs.entries.any (parts.isPrefixOf ·.1) then some .directory else none

/-- The most bytes that a name can have. -/
def nameLimit : Nat := 255

/-- The number of bytes that a path does not reach. -/
def pathLimit : Nat := 4096

/-- Walk from a directory along components. -/
def walk (fs : Files) : List Text → List Text → Except Failure (List Text)
  | here, [] => .ok here
  | here, part :: rest =>
    match fs.at? here with
    | some .directory =>
      if nameLimit < Utf8.size part then .error .nameTooLong
      else walk fs (if part = ['.', '.'] then here.dropLast else here ++ [part]) rest
    | some (.file _) => .error (.notDirectory)
    | none => .error .fileMissing

/-- The place a path leads to, seen from the directory `cwd`. -/
def locate (fs : Files) (cwd : List Text) (p : Path) : Except Failure (List Text) :=
  if p.toText.contains '\x00' then .error .nullCharacter
  else if pathLimit ≤ Utf8.size p.toText then .error .nameTooLong
  else fs.walk (if p.root.isEmpty then cwd else []) p.parts

/-- What a path leads to. -/
def kindOf (fs : Files) (cwd : List Text) (p : Path) : Except Failure FileBody := do
  let place ← fs.locate cwd p
  match fs.at? place with
  | some body => pure body
  | none => .error .fileMissing

/-- Whether a path leads anywhere. A name that is too long is refused. -/
def holds (fs : Files) (cwd : List Text) (p : Path) : Except Failure Bool :=
  match fs.kindOf cwd p with
  | .ok _ => .ok true
  | .error .nameTooLong => .error .nameTooLong
  | .error _ => .ok false

/-- The bytes of a file. -/
def read (fs : Files) (cwd : List Text) (p : Path) : Except Failure (List UInt8) := do
  match ← fs.kindOf cwd p with
  | .file bytes => pure bytes
  | .directory => .error .isDirectory

/-- A text in which every line ends with a line feed alone. -/
def unifyLineEnds : Text → Text
  | '\r' :: '\n' :: rest => '\n' :: unifyLineEnds rest
  | '\r' :: rest => '\n' :: unifyLineEnds rest
  | c :: rest => c :: unifyLineEnds rest
  | [] => []

/-- The text of a file, with all line ends made line feeds. -/
def readText (fs : Files) (cwd : List Text) (p : Path) : Except Failure Text := do
  match Utf8.decode (← fs.read cwd p) with
  | .ok t => pure (unifyLineEnds t)
  | .error flaw => .error (.notDecodable flaw)

/-- Put a body at a place. -/
def put (fs : Files) (place : List Text) (body : FileBody) : Files :=
  { entries := fs.entries.filter (·.1 ≠ place) ++ [(place, body)] }

/-- Write a file. Its directory must exist, and it must not be a directory itself. -/
def write (fs : Files) (cwd : List Text) (p : Path) (bytes : List UInt8) :
    Except Failure Files := do
  let place ← fs.locate cwd p
  match fs.at? place, fs.at? place.dropLast with
  | some .directory, _ => .error .isDirectory
  | _, some .directory => pure (fs.put place (.file bytes))
  | _, some (.file _) => .error (.notDirectory)
  | _, none => .error .fileMissing

/-- Write a string to a file. The file is opened, and so emptied, before the string is encoded, and
stays empty if it cannot be. -/
def writeText (fs : Files) (cwd : List Text) (p : Path) (codes : List Nat) :
    Files × Except Failure Unit :=
  let (bytes, outcome) := match Utf8.encode codes with
    | .ok bytes => (bytes, .ok ())
    | .error _ => ([], .error .notEncodable)
  match fs.write cwd p bytes with
  | .ok fs => (fs, outcome)
  | .error e => (fs, .error e)

/-- Walk from a directory along components and make the directories that are missing. -/
def makeAlong (fs : Files) : List Text → List Text → Except Failure Files
  | _, [] => .ok fs
  | here, part :: rest =>
    if part = ['.', '.'] then makeAlong fs here.dropLast rest
    else if nameLimit < Utf8.size part then .error .nameTooLong
    else
      let next := here ++ [part]
      match fs.at? next with
      | some .directory => makeAlong fs next rest
      | some (.file _) => .error (if rest.isEmpty then .alreadyExists else .notDirectory)
      | none => makeAlong (fs.put next .directory) next rest

/-- Make a directory and those above it, as far as they are missing. -/
def makeDirectory (fs : Files) (cwd : List Text) (p : Path) : Except Failure Files :=
  fs.makeAlong (if p.root.isEmpty then cwd else []) p.parts

end Files

end GhostEdit
