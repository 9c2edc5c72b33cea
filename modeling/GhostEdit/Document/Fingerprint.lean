import GhostEdit.Digest.Sha256
import GhostEdit.Value.Row

/-!
# The fingerprint of an edit position

Answers are stored under the cursor position and a digest of the end of the document. Documents
that agree on that end share a fingerprint.

## Main definitions

* `Fingerprint.windowSize`, `Fingerprint.tail`
* `Fingerprint.of`: the fingerprint of a cursor and rows
-/

namespace GhostEdit

namespace Fingerprint

/-- How many code points at the end of a document count. -/
def windowSize : Nat := 2000

/-- The end of a document that counts. -/
def tail (codes : List Nat) : List Nat := codes.drop (codes.length - windowSize)

/-- The fingerprint of a cursor position in a document. -/
def of (row col : Int) (rows : List Value) : Except Failure String := do
  let codes ← Value.joinRows rows
  match Utf8.encode (tail codes) with
  | .ok bytes =>
    let digest := Sha256.hex bytes
    pure s!"{row}:{col}:{digest}"
  | .error _ => .error .notEncodable

end Fingerprint

end GhostEdit
