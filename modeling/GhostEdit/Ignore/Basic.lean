import GhostEdit.Files
import GhostEdit.Value.Row

/-!
# Ignore rules

Files that the rules of a project ignore never get suggestions. The rules are the patterns of an
ignore file, of which the last that matches decides, and globs from the settings, of which one
is enough. Everything below a directory named `.git` is ignored.

## Main definitions

* `IgnoreRule`, `IgnoreRule.parse`: the rules of an ignore file
* `IgnoreRule.covers`: whether a pattern matches a path or a directory above it
* `IgnoreRules.isIgnored`: the decision for a path
-/

namespace GhostEdit

/-- A line of an ignore file. A negated rule takes files back. -/
structure IgnoreRule where
  pattern : Text
  negated : Bool
deriving DecidableEq, Inhabited

namespace IgnoreRule

/-- The rule of a line, unless the line is blank or a comment. -/
def ofLine? (line : Text) : Option IgnoreRule :=
  match line.strip with
  | [] => none
  | '#' :: _ => none
  | '!' :: rest => some ⟨rest, true⟩
  | pattern => some ⟨pattern, false⟩

/-- The rules of an ignore file. -/
def parse (t : Text) : List IgnoreRule := t.logicalLines.filterMap ofLine?

/-- The pattern without slashes at its end. -/
def bare (pattern : Text) : Text := Text.dropEndWhile (· = '/') pattern

/-- The directories above a path, from the top down. -/
def ancestors (parts : List Text) : List Text :=
  (List.range (parts.length - 1)).map fun i => Text.join ['/'] (parts.take (i + 1))

/-- Whether a pattern with a slash inside, which counts from the top of the project, matches a
path, something it is below, or a directory above it. -/
def coversAnchored (pattern path : Text) : Bool :=
  let p := pattern.dropWhile (· = '/')
  Glob.fits p path || Glob.fits (p ++ ['/', '*']) path
    || (ancestors (Text.pieces '/' path)).any (Glob.fits p)

/-- Whether a pattern without a slash inside matches a component; one that names directories does
not look at the last component. -/
def coversComponent (pattern : Text) (directoryOnly : Bool) (path : Text) : Bool :=
  let parts := Text.pieces '/' path
  (if directoryOnly then parts.dropLast else parts).any (Glob.fits pattern)

/-- Whether a pattern matches a path relative to the project. -/
def covers (pattern path : Text) : Bool :=
  let p := bare pattern
  if p.contains '/' then coversAnchored p path
  else coversComponent p (pattern.getLast? = some '/') path

end IgnoreRule

/-- The rules of a project. -/
structure IgnoreRules where
  /-- The directory the rules belong to. -/
  root : Path
  rules : List IgnoreRule
  /-- Globs from the settings, each of which should be a text. -/
  globs : List Value
  /-- Where paths lead. -/
  resolve : Path.Resolver := Path.unlinked
deriving Inhabited

namespace IgnoreRules

/-- The name of the file that holds the rules of a project. -/
def fileName : Text := ".gitignore".toList

/-- Why the rules of a project cannot be read. -/
def readFailure (path : Text) (e : Failure) : String :=
  match e with
  | .isDirectory =>
    let shown := String.ofList path.quoted
    s!"[Errno 21] Is a directory: {shown}"
  | e => e.message

/-- The lines of the ignore file in directory `cwd`, whose path is `root`, with what is logged. A
file that cannot be read has no rules. -/
def loadRules (fs : Files) (cwd : List Text) (root : Path) : List IgnoreRule × List Record :=
  match fs.readText cwd ⟨[], [fileName]⟩ with
  | .ok t => (IgnoreRule.parse t, [])
  | .error .fileMissing => ([], [])
  | .error e =>
    let place := (root.append ⟨[], [fileName]⟩).toText
    let (path, why) := (String.ofList place, readFailure place e)
    ([], [⟨.warning, .ignore, s!"Failed to read {path}: {why}"⟩])

/-- The rules of the project in directory `cwd`, whose path is `root`, with what is logged. The
globs are the elements of a value. -/
def load (fs : Files) (cwd : List Text) (root : Path) (globs : Value)
    (resolve : Path.Resolver := Path.unlinked) : Except Failure IgnoreRules × List Record :=
  let (rules, records) := loadRules fs cwd root
  (globs.elements.map fun globs => { root, rules, globs, resolve }, records)

/-- A relative path as the patterns see it. -/
def written (p : Path) : Text := p.toText.map fun c => if c = '\\' then '/' else c

/-- The path relative to the project, if it leads inside. A path with a null character leads
nowhere. -/
def relative? (r : IgnoreRules) (cwd : Path) (path : Text) : Except Failure (Option Text) :=
  if path.contains '\x00' then .ok none
  else
    match r.resolve (Path.ofText path) cwd with
    | .error e => .error e
    | .ok place =>
      match r.resolve r.root cwd with
      | .error e => .error e
      | .ok root => .ok ((place.relativeTo? root).map written)

/-- Whether a glob matches a path as a whole or by its last components. -/
def matchesGlob (path : Text) (glob : Value) : Except Failure Bool :=
  match glob.chars? with
  | none => .error (.mismatch (.notGlob glob.kind))
  | some glob => if Glob.fits glob path then .ok true else (Path.ofText path).matchesGlob glob

/-- Whether one of the globs matches a path; those after the first that does are not looked at. -/
def matchesGlobs (path : Text) : List Value → Except Failure Bool
  | [] => .ok false
  | glob :: rest =>
    match matchesGlob path glob with
    | .error e => .error e
    | .ok true => .ok true
    | .ok false => matchesGlobs path rest

/-- What the last rule that matches decides, where `decided` is what earlier rules did. -/
def lastMatch (path : Text) : Bool → List IgnoreRule → Bool
  | decided, [] => decided
  | decided, rule :: rest =>
    lastMatch path (if IgnoreRule.covers rule.pattern path then !rule.negated else decided) rest

/-- The decision for a path inside the project. -/
def isIgnoredInside (r : IgnoreRules) (path : Text) : Except Failure Bool :=
  if (Text.pieces '/' path).contains ".git".toList then .ok true
  else
    match matchesGlobs path r.globs with
    | .error e => .error e
    | .ok true => .ok true
    | .ok false => .ok (lastMatch path false r.rules)

/-- Whether a file never gets suggestions. Outside the project only the globs count, and only
against the name of the file. -/
def isIgnored (r : IgnoreRules) (cwd : Path) (path : Text) : Except Failure Bool :=
  match r.relative? cwd path with
  | .error e => .error e
  | .ok (some inside) => r.isIgnoredInside inside
  | .ok none => matchesGlobs (Path.ofText path).name r.globs

end IgnoreRules

end GhostEdit
