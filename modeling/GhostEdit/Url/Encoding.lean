import GhostEdit.Text.Utf8

/-!
# Percent encoding

A part of an address has only the plain characters that cannot be mistaken for its ends. Every
other character is written as its bytes, each as a percent sign and two hexadecimal digits. The
percent sign itself counts as safe, so that encoding twice changes nothing more.

## Main definitions

* `Encoding.percent`: a text with unsafe characters encoded
* `Encoding.pathSafe`, `Encoding.querySafe`, `Encoding.fragmentSafe`, `Encoding.userSafe`,
  `Encoding.hostSafe`: what is safe where
-/

namespace GhostEdit

namespace Encoding

/-- A byte as a percent sign and two digits. -/
def percentByte (b : UInt8) : Text := '%' :: (Text.hexPadded 2 b.toNat).map Char.toUpper

/-- A text with unsafe characters encoded. -/
def percent (safe : Char → Bool) (t : Text) : Text :=
  t.flatMap fun c => if safe c then [c] else (Utf8.bytesOf c.toNat).flatMap percentByte

/-- A visible plain character other than the given ones. -/
def visibleBut (others : String) (c : Char) : Bool :=
  0x20 < c.toNat && c.toNat < 0x7f && !others.toList.contains c

/-- What is safe in a fragment. -/
def fragmentSafe : Char → Bool := visibleBut "\"<>`"

/-- What is safe in a query. -/
def querySafe : Char → Bool := visibleBut "\"#<>"

/-- What is safe in a path. -/
def pathSafe : Char → Bool := visibleBut "\"#<>?`\x7b\x7d"

/-- What is safe in the name and the password of a user. -/
def userSafe : Char → Bool := visibleBut "\"#<>?`\x7b\x7d/;=@[\\]^|"

/-- What is safe in the name of a machine. -/
def hostSafe : Char → Bool := visibleBut "#/:<>?@[]^"

end Encoding

end GhostEdit
