import GhostEdit.Binary64.Shortest
import GhostEdit.Value.Basic

/-!
# Writing JSON

Values are written in plain ASCII, on one line or indented. Strings escape quotes, backslashes
and everything outside the printable ASCII range; a character beyond the sixteen-bit codes is
written as two codes.

## Main definitions

* `Json.render`: on one line, with a blank after commas and colons
* `Json.renderIndented`: one element or member to a line
-/

namespace GhostEdit

namespace Json

/-- Four hexadecimal digits after a backslash and a letter. -/
def codeEscape (n : Nat) : Text :=
  let digits := Nat.toDigits 16 n
  '\\' :: 'u' :: (List.replicate (4 - digits.length) '0' ++ digits)

/-- How a character is written inside a string. -/
def escapeChar (c : Char) : Text :=
  match c with
  | '"' => ['\\', '"']
  | '\\' => ['\\', '\\']
  | '\n' => ['\\', 'n']
  | '\r' => ['\\', 'r']
  | '\t' => ['\\', 't']
  | '\x08' => ['\\', 'b']
  | '\x0c' => ['\\', 'f']
  | c =>
    let n := c.toNat
    if 0x20 ≤ n ∧ n < 0x7f then [c]
    else if n < 0x10000 then codeEscape n
    else
      codeEscape (0xd800 + (n - 0x10000) / 0x400) ++ codeEscape (0xdc00 + (n - 0x10000) % 0x400)

/-- A string between quotes. -/
def renderString (t : Text) : Text := '"' :: t.flatMap escapeChar ++ ['"']

/-- A string of code points between quotes; halves of pairs are written by number. -/
def renderCodes (points : List Nat) : Text :=
  '"' :: points.flatMap (fun n => if n.isValidChar then escapeChar (Char.ofNat n) else codeEscape n)
    ++ ['"']

/-- The name of a member between quotes. -/
def renderName : Name → Text
  | .text t => renderString t
  | .codes points => renderCodes points

/-- An integer in decimal. -/
def renderInt (n : Int) : Text := (toString n).toList

/-- A binary64 number; the numbers that JSON lacks are written as words. -/
def renderFloat (x : Binary64) : Text :=
  if x.isNaN then "NaN".toList
  else if x.isFinite then x.render.toList
  else if x.isNegative then "-Infinity".toList
  else "Infinity".toList

mutual

/-- A value on one line. -/
def render : Value → Text
  | .null => "null".toList
  | .bool true => "true".toList
  | .bool false => "false".toList
  | .int n => renderInt n
  | .float x => renderFloat x
  | .str t => renderString t
  | .codes points => renderCodes points
  | .moment m => renderString m.shown.toList
  | .arr elements => '[' :: renderElements elements ++ [']']
  | .obj members => '\x7b' :: renderMembers members ++ ['\x7d']

/-- Elements with a comma and a blank between them. -/
def renderElements : List Value → Text
  | [] => []
  | [v] => render v
  | v :: rest => render v ++ ',' :: ' ' :: renderElements rest

/-- Members with a comma and a blank between them. -/
def renderMembers : List (Name × Value) → Text
  | [] => []
  | [(name, v)] => renderName name ++ ':' :: ' ' :: render v
  | (name, v) :: rest =>
    renderName name ++ ':' :: ' ' :: render v ++ ',' :: ' ' :: renderMembers rest

end

/-- A new line indented by `depth` steps of two blanks. -/
def newLine (depth : Nat) : Text := '\n' :: List.replicate (2 * depth) ' '

mutual

/-- A value with each element and member on a line of its own, two blanks deeper. -/
def renderIndented (depth : Nat) : Value → Text
  | .arr (v :: rest) =>
    '[' :: renderIndentedElements (depth + 1) (v :: rest) ++ newLine depth ++ [']']
  | .obj (m :: rest) =>
    '\x7b' :: renderIndentedMembers (depth + 1) (m :: rest) ++ newLine depth ++ ['\x7d']
  | v => render v

/-- Elements, each on a line of its own. -/
def renderIndentedElements (depth : Nat) : List Value → Text
  | [] => []
  | [v] => newLine depth ++ renderIndented depth v
  | v :: rest =>
    newLine depth ++ renderIndented depth v ++ ',' :: renderIndentedElements depth rest

/-- Members, each on a line of its own. -/
def renderIndentedMembers (depth : Nat) : List (Name × Value) → Text
  | [] => []
  | [(name, v)] =>
    newLine depth ++ renderName name ++ ':' :: ' ' :: renderIndented depth v
  | (name, v) :: rest =>
    newLine depth ++ renderName name ++ ':' :: ' ' :: renderIndented depth v
      ++ ',' :: renderIndentedMembers depth rest

end

end Json

end GhostEdit
