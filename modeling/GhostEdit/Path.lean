import GhostEdit.Failure
import GhostEdit.Glob.Basic

/-!
# File paths

A path is its components, with a mark for a leading slash. Empty components and single dots are
left out; two dots stay until the path is resolved.

Where a path leads depends on the symbolic links on the way, which are no part of the text. So
resolving is a parameter of what needs it, a `Path.Resolver`. Reading a path from left to right,
with two dots taking the name before them away, is resolving in a tree without links, and nothing
else is assumed to resolve in that way.

## Main definitions

* `Path.ofText`, `Path.toText`
* `Path.name`, `Path.suffix`
* `Path.lexical`, `Path.Resolver`, `Path.unlinked`
* `Path.relativeTo?`
* `Path.matchesGlob`: matching a glob component by component from the end
-/

namespace GhostEdit

/-- A file path. -/
structure Path where
  /-- The leading slashes that count: none, one or two. -/
  root : Text
  parts : List Text
deriving DecidableEq, Inhabited

namespace Path

/-- The leading slashes that count: exactly two stay two, and more are one. -/
def rootOf : Text → Text
  | '/' :: '/' :: '/' :: _ => ['/']
  | '/' :: '/' :: _ => ['/', '/']
  | '/' :: _ => ['/']
  | _ => []

/-- The path that a text names. -/
def ofText (t : Text) : Path :=
  { root := rootOf t, parts := (Text.pieces '/' t).filter fun p => !p.isEmpty && p ≠ ['.'] }

/-- The written form of a path. -/
def toText (p : Path) : Text :=
  if p.root.isEmpty && p.parts.isEmpty then ['.'] else p.root ++ Text.join ['/'] p.parts

/-- The last component. -/
def name (p : Path) : Text := p.parts.getLastD []

/-- The end of the name from its last dot on, unless that dot is its first or last character. -/
def suffix (p : Path) : Text :=
  let reversed := p.name.reverse
  let stem := reversed.dropWhile (· ≠ '.')
  let tail := reversed.takeWhile (· ≠ '.')
  if stem.length ≤ 1 || tail.isEmpty then [] else '.' :: tail.reverse

/-- The directory that holds a path. -/
def parent (p : Path) : Path := { p with parts := p.parts.dropLast }

/-- A path below another, unless it has a root of its own. -/
def append (base p : Path) : Path :=
  if p.root.isEmpty then { base with parts := base.parts ++ p.parts } else p

/-- Components without two dots: each takes the component before it away. `done` stands in
reverse. -/
def climb : List Text → List Text → List Text
  | done, [] => done.reverse
  | done, part :: rest =>
    if part = ['.', '.'] then climb (done.drop 1) rest else climb (part :: done) rest

/-- The path as seen from the top of the file system, starting in `cwd`, as it is written. Where a
symbolic link stands on the way, this may be another place than the one the path leads to. -/
def lexical (p cwd : Path) : Path := { root := ['/'], parts := climb [] (cwd.append p).parts }

/-- Where a path that starts in a directory leads, as seen from the top of the file system, with all
symbolic links followed. A path that links lead in a circle leads nowhere. -/
abbrev Resolver := Path → Path → Except Failure Path

/-- Resolving where there are no symbolic links. -/
def unlinked : Resolver := fun p cwd => .ok (p.lexical cwd)

/-- The rest of a list after a list it starts with. -/
def dropParts? : List Text → List Text → Option (List Text)
  | [], rest => some rest
  | _ :: _, [] => none
  | a :: as, b :: bs => if a = b then dropParts? as bs else none

/-- The path below `base`, if it is there. -/
def relativeTo? (p base : Path) : Option Path :=
  if p.root = base.root then (dropParts? base.parts p.parts).map fun parts => ⟨[], parts⟩
  else none

/-- Whether components match patterns one by one. -/
def partsFit : List Text → List Text → Bool
  | [], _ => true
  | pattern :: patterns, part :: parts => Glob.fits pattern part && partsFit patterns parts
  | _ :: _, [] => false

/-- The components of a path, of which its root is the first. -/
def components (p : Path) : List Text := if p.root.isEmpty then p.parts else p.root :: p.parts

/-- Whether the last components of a path match those of a pattern one by one. A pattern with a
root matches only the components of a path with the same root, all of them, and one without
components cannot be used. -/
def matchesGlob (p : Path) (pattern : Text) : Except Failure Bool :=
  let glob := ofText pattern
  if glob.components.isEmpty then .error .emptyPattern
  else if glob.root.isEmpty then .ok (partsFit glob.parts.reverse p.components.reverse)
  else
    .ok (glob.root = p.root && glob.parts.length = p.parts.length && partsFit glob.parts p.parts)

end Path

end GhostEdit
