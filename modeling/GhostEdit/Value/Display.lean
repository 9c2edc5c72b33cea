import GhostEdit.Binary64.Shortest
import GhostEdit.Text.Quoted
import GhostEdit.Value.Basic

/-!
# Values in messages

Messages show values in a notation of their own: strings as quoted text, and the words `None`,
`True` and `False`.

## Main definitions

* `Value.display`: a value as messages show it
* `Value.displayText`: the same, with a bare string left unquoted
-/

namespace GhostEdit

namespace Value

/-- A code point between quotes of the given kind. -/
def quotedCode (quote : Char) (n : Nat) : Text :=
  if n.isValidChar then Text.quotedChar quote (Char.ofNat n)
  else '\\' :: 'u' :: Text.hexPadded 4 n

/-- Code points between quotes, as messages show them. -/
def quotedCodes (points : List Nat) : Text :=
  let quote := Text.quoteFor (points.map Char.ofNat)
  quote :: points.flatMap (quotedCode quote) ++ [quote]

/-- A name of a member as messages show it. -/
def displayName : Name → Text
  | .text t => t.quoted
  | .codes points => quotedCodes points

mutual

/-- A value as messages show it. -/
def display : Value → Text
  | .null => "None".toList
  | .bool true => "True".toList
  | .bool false => "False".toList
  | .int n => (toString n).toList
  | .float x => x.render.toList
  | .str t => t.quoted
  | .codes points => quotedCodes points
  | .moment m => m.display.toList
  | .arr elements => '[' :: displayElements elements ++ [']']
  | .obj members => '\x7b' :: displayMembers members ++ ['\x7d']

/-- Elements with a comma and a blank between them. -/
def displayElements : List Value → Text
  | [] => []
  | [v] => display v
  | v :: rest => display v ++ ',' :: ' ' :: displayElements rest

/-- Members with a comma and a blank between them. -/
def displayMembers : List (Name × Value) → Text
  | [] => []
  | [(name, v)] => displayName name ++ ':' :: ' ' :: display v
  | (name, v) :: rest =>
    displayName name ++ ':' :: ' ' :: display v ++ ',' :: ' ' :: displayMembers rest

end

/-- Code points as characters; halves of pairs show as replacements. -/
def charsOf (points : List Nat) : Text :=
  points.map fun n => if n.isValidChar then Char.ofNat n else '\ufffd'

/-- A value inside running text, where a string needs no quotes. -/
def displayText : Value → Text
  | .str t => t
  | .codes points => charsOf points
  | .moment m => m.shown.toList
  | v => display v

end Value

end GhostEdit
