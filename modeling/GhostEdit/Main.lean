import GhostEdit.Command.Basic

/-!
# The program

The program reads the files that a command line can touch, hands them to `Command.run` and writes
what came of it. The answer of the provider is read from standard input.
-/

namespace GhostEdit

/-- How the program is used. -/
def usage : String :=
  "Usage: suggest PATH --line N [--col N] [--accept-all] [--write] [--interactive]\n" ++
  "               [--config PATH] [--verbose]\n" ++
  "       init-config [--path PATH] [--force]\n" ++
  "       doctor\n"

/-- The paths that a command line can read, beside those of every command. -/
def pathsOf : Option Command → List Path
  | some (.suggest options) => options.path :: options.config.toList
  | some (.initConfig path _) => path.toList
  | _ => []

/-- What stands at an absolute path, if anything. -/
def bodyAt (path : String) : IO (Option FileBody) := do
  let place := (← IO.currentDir) / path
  if ← place.isDir then return some .directory
  if ← place.pathExists then
    let bytes ← IO.FS.readBinFile place
    return some (.file bytes.toList)
  return none

/-- The files at paths. -/
def filesAt (cwd : Path) (paths : List Path) : IO Files := do
  let mut entries := [(cwd.parts, FileBody.directory)]
  for p in paths do
    let place := p.lexical cwd
    if let some body ← bodyAt (String.ofList place.toText) then
      entries := entries ++ [(place.parts, body)]
    if let some body ← bodyAt (String.ofList place.parent.toText) then
      entries := entries ++ [(place.parent.parts, body)]
  return ⟨entries⟩

/-- Write the files and directories that were not there before. -/
def writeFiles (before after : Files) : IO Unit := do
  for (place, body) in after.entries do
    if before.entries.lookup place ≠ some body then
      let path := String.ofList (Path.mk ['/'] place).toText
      match body with
      | .directory => IO.FS.createDirAll path
      | .file bytes => IO.FS.writeBinFile path (ByteArray.mk bytes.toArray)

/-- The variables of the environment that matter. -/
def environment : IO Environment := do
  let mut env : Environment := []
  for service in Service.all do
    if let some v ← IO.getEnv service.variableName then
      env := env ++ [(service.variableName, v.toList)]
  return env

/-- All lines of a stream. -/
partial def readAll (stream : IO.FS.Stream) (before : String) : IO String := do
  let line ← stream.getLine
  if line.isEmpty then return before else readAll stream (before ++ line)

end GhostEdit

open GhostEdit in
/-- Run a command line. -/
def main (args : List String) : IO UInt32 := do
  let arguments := args.map String.toList
  let command := Command.parse? arguments
  let cwd := Path.ofText (← IO.currentDir).toString.toList
  let home := Path.ofText ((← IO.getEnv "HOME").getD "/").toList
  let now ← IO.monoMsNow
  let world : World :=
    { directory := cwd.parts, home, environment := ← environment, stamp := s!"{now}ms" }
  let files ← filesAt cwd
    (world.configPath :: ⟨[], [IgnoreRules.fileName]⟩ :: pathsOf command)
  let answer ← match command with
    | some (.suggest _) => do readAll (← IO.getStdin) ""
    | _ => pure ""
  let world := { world with reply := { pieces := [answer.toList] } }
  let (result, console) := Command.run world files arguments
  writeFiles files console.files
  IO.print (String.ofList console.output)
  IO.eprint (String.ofList console.errors)
  match result with
  | .misused =>
    IO.eprint usage
    return 2
  | .exited code => return code.toUInt32
  | .broke e =>
    IO.eprintln e.message
    return 1
