import GhostEdit.Text.Utf8
import GhostEdit.Toml.Read
import GhostEdit.Toml.Write

/-!
# TOML libraries

Configuration files are written and read by a TOML library, of which the rest needs no more than two
functions: one dumps a document as bytes, the other loads bytes as a document. What is proved about
saved settings is proved for every library that loads what it dumped. The reader and the writer of
`GhostEdit.Toml` are one such library, and the one that the program runs with.

## Main definitions

* `Toml.Library`, `Toml.own`
* `Toml.Library.Returns`: what a library dumped for a document it loads as that document
-/

namespace GhostEdit

namespace Toml

/-- A TOML library. -/
structure Library where
  /-- The bytes that a document is dumped as. -/
  dump : Members → Except Failure (List UInt8)
  /-- The document that bytes are loaded as, if they can be. -/
  load : List UInt8 → Option Members

/-- The writer and the reader here. -/
def own : Library where
  dump members := (render members).map Utf8.bytes
  load bytes := (Utf8.decode bytes).toOption.bind read?

instance : Inhabited Library := ⟨own⟩

/-- Loading gives back the document that was dumped. -/
def Library.Returns (library : Library) (members : Members) : Prop :=
  ∀ bytes, library.dump members = .ok bytes → library.load bytes = some members

end Toml

end GhostEdit
