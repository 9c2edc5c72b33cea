import GhostEdit.Buffer.Basic
import GhostEdit.Files
import GhostEdit.Registry

/-!
# The open buffers

Buffers are kept under names; a buffer opened from a file has the path as its name.

## Main definitions

* `Buffers`, `Buffers.get`, `Buffers.modify`
* `Buffers.openFile`, `Buffers.save`
-/

namespace GhostEdit

/-- The file types by the suffix of a name. -/
def filetypes : List (String × String) :=
  [(".py", "python"), (".lua", "lua"), (".js", "javascript"), (".ts", "typescript"),
   (".go", "go"), (".rs", "rust"), (".rb", "ruby"), (".sh", "sh"), (".md", "markdown"),
   (".toml", "toml")]

/-- The file type of a path; empty if its suffix is not known. -/
def filetypeOf (p : Path) : String := (filetypes.lookup (String.ofList p.suffix)).getD ""

/-- The open buffers by name. -/
structure Buffers where
  entries : Registry Buffer := []
deriving Inhabited

namespace Buffers

/-- The buffer with a name, if there is one. -/
def get? (bs : Buffers) (id : String) : Option Buffer := bs.entries.lookup id

/-- The buffer with a name. -/
def get (bs : Buffers) (id : String) : Except Failure Buffer :=
  match bs.get? id with
  | some b => .ok b
  | none => .error (.unknownBuffer id)

/-- Put a buffer under a name. -/
def put (bs : Buffers) (id : String) (b : Buffer) : Buffers := ⟨bs.entries.put id b⟩

/-- Close a buffer. -/
def remove (bs : Buffers) (id : String) : Buffers := ⟨bs.entries.erase id⟩

/-- Change the buffer with a name. -/
def modify (bs : Buffers) (id : String) (f : Buffer → Except Failure Buffer) :
    Except Failure Buffers := do
  let b ← bs.get id
  pure (bs.put id (← f b))

/-- Change the buffer with a name, if there is one. -/
def adjust (bs : Buffers) (id : String) (f : Buffer → Buffer) : Buffers :=
  match bs.get? id with
  | some b => bs.put id (f b)
  | none => bs

/-- Open a file in a buffer named after its path, unless it is open. A missing file gives an
empty buffer. -/
def openFile (bs : Buffers) (fs : Files) (cwd : List Text) (p : Path) :
    Except Failure (Buffers × String) := do
  let id := String.ofList p.toText
  match bs.get? id with
  | some _ => pure (bs, id)
  | none =>
    let t ← match fs.readText cwd p with
      | .ok t => .ok t
      | .error .fileMissing => .ok []
      | .error e => .error e
    pure (bs.put id { path := some id, lines := Buffer.rowsOf t, filetype := filetypeOf p }, id)

/-- Write a buffer to its file, and give the files after that also when it fails. -/
def save (bs : Buffers) (fs : Files) (cwd : List Text) (id : String) :
    Files × Except Failure (Buffers × String) :=
  match bs.get id with
  | .error e => (fs, .error e)
  | .ok b =>
    match b.path, b.text with
    | none, _ => (fs, .error (.noFile id))
    | some _, .error e => (fs, .error e)
    | some path, .ok codes =>
      let (fs, r) := fs.writeText cwd (Path.ofText path.toList) codes
      (fs, r.map fun _ => (bs.put id { b with dirty := false }, path))

end Buffers

end GhostEdit
