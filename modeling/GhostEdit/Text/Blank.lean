import GhostEdit.Text.Basic
import GhostEdit.Text.Range

/-!
# Blank characters and line boundaries

A blank is any character that Unicode counts as white space, together with the four separators
of the C0 block. `Text.strip` removes blanks at both ends. `Text.logicalLines` cuts at every
line boundary that Unicode knows, not only at line feeds, and gives no last empty line.

## Main definitions

* `isBlank`, `Text.skipBlanks`, `Text.strip`
* `isLineBoundary`, `Text.logicalLines`
-/

namespace GhostEdit

/-- The code points of blanks, in ascending ranges. -/
def blankRanges : List (Nat × Nat) := [
  (0x9, 0xd), (0x1c, 0x20), (0x85, 0x85), (0xa0, 0xa0), (0x1680, 0x1680),
  (0x2000, 0x200a), (0x2028, 0x2029), (0x202f, 0x202f), (0x205f, 0x205f), (0x3000, 0x3000)]

/-- Whether a character is a blank. -/
def isBlank (c : Char) : Bool := inRanges blankRanges c.toNat

/-- Whether a character ends a line in text of unknown origin. -/
def isLineBoundary (c : Char) : Bool :=
  c = '\n' || c = '\r' || c = '\x0b' || c = '\x0c' || c = '\x1c' || c = '\x1d' || c = '\x1e'
    || c = '\u0085' || c = '\u2028' || c = '\u2029'

namespace Text

/-- The text without its leading blanks. -/
def skipBlanks (t : Text) : Text := t.dropWhile isBlank

/-- The text without its trailing blanks. -/
def dropEndBlanks (t : Text) : Text := dropEndWhile isBlank t

/-- The text without blanks at either end. -/
def strip (t : Text) : Text := dropEndBlanks (skipBlanks t)

/-- The rows of a text between line boundaries, where a carriage return and the line feed after
it are one boundary and a boundary at the very end opens no further row. -/
def logicalLines : Text → List Text
  | [] => []
  | '\r' :: '\n' :: rest => [] :: logicalLines rest
  | c :: rest =>
    if isLineBoundary c then [] :: logicalLines rest
    else
      match logicalLines rest with
      | [] => [[c]]
      | line :: more => (c :: line) :: more

end Text

end GhostEdit
