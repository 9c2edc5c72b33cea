import GhostEdit.Failure
import GhostEdit.Json.Decode

/-!
# Writing TOML

The plain members of a table come first, then its tables, each after an empty line and under its
full name. Arrays have one element to a line. An array of tables whose tables are short stays an
array of inline tables. There is no way to write null, a string that is no text, or an integer of
more digits than are read.

## Main definitions

* `Toml.flaw?`: why a value cannot be written
* `Toml.render`: a table as a document
-/

namespace GhostEdit

namespace Toml

/-- A character of a basic string. -/
def escapedChar (c : Char) : Text :=
  match c with
  | '\x08' => ['\\', 'b']
  | '\n' => ['\\', 'n']
  | '\x0c' => ['\\', 'f']
  | '\r' => ['\\', 'r']
  | '"' => ['\\', '"']
  | '\\' => ['\\', '\\']
  | c =>
    if (c.toNat < 32 && c ≠ '\t') || c.toNat = 127 then '\\' :: 'u' :: Text.hexPadded 4 c.toNat
    else [c]

/-- A basic string. -/
def renderString (t : Text) : Text := '"' :: t.flatMap escapedChar ++ ['"']

/-- The characters of a name. -/
def nameText : Name → Text
  | .text t => t
  | .codes points => Value.charsOf points

/-- One part of a key, between quotes unless it can do without. -/
def renderKey (name : Name) : Text :=
  let t := nameText name
  if !t.isEmpty && t.all (fun c => c.isAlphanum || c = '-' || c = '_') then t else renderString t

/-- Blanks for a depth of nesting. -/
def indent (depth : Nat) : Text := List.replicate (4 * depth) ' '

mutual

/-- A value on the right of an equals sign, inside `depth` arrays. -/
def renderValue (depth : Nat) : Value → Text
  | .null => []
  | .bool true => "true".toList
  | .bool false => "false".toList
  | .int n => (toString n).toList
  | .float x => x.render.toList
  | .str t => renderString t
  | .codes points => renderString (Value.charsOf points)
  | .moment m => m.shown.toList
  | .arr [] => "[]".toList
  | .arr (v :: rest) =>
    '[' :: '\n' :: renderElements (depth + 1) (v :: rest) ++ indent depth ++ [']']
  | .obj [] => ['\x7b', '\x7d']
  | .obj (m :: rest) => '\x7b' :: ' ' :: renderInline (m :: rest) ++ [' ', '\x7d']

/-- Elements of an array, each on a line of its own with a comma. -/
def renderElements (depth : Nat) : List Value → Text
  | [] => []
  | v :: rest => indent depth ++ renderValue depth v ++ ',' :: '\n' :: renderElements depth rest

/-- Members of an inline table. -/
def renderInline : List (Name × Value) → Text
  | [] => []
  | [(name, v)] => renderKey name ++ " = ".toList ++ renderValue 0 v
  | (name, v) :: rest =>
    renderKey name ++ " = ".toList ++ renderValue 0 v ++ ", ".toList ++ renderInline rest

end

/-- Whether a table is short enough to stand on a line of an array. -/
def isShort (v : Value) : Bool :=
  let line := indent 1 ++ renderValue 0 v ++ [',']
  line.length ≤ 100 && !line.contains '\n'

/-- Whether a value is a table. -/
def isTable : Value → Bool
  | .obj _ => true
  | _ => false

/-- A table below another: its name, whether it is an element of an array, and its members. -/
structure Section where
  name : Name
  element : Bool
  members : Value.Members

/-- The sections that a member makes; a plain member makes none. -/
def sectionsOf (member : Name × Value) : List Section :=
  match member with
  | (name, .obj ms) => [⟨name, false, ms⟩]
  | (name, .arr elements) =>
    if !elements.isEmpty && elements.all isTable && !elements.all isShort then
      elements.filterMap fun
        | .obj ms => some ⟨name, true, ms⟩
        | _ => none
    else []
  | _ => []

/-- Whether a member is written in the body of its table. -/
def isPlain (member : Name × Value) : Bool := (sectionsOf member).isEmpty

/-- The line of a plain member. -/
def renderMember (member : Name × Value) : Text :=
  renderKey member.1 ++ " = ".toList ++ renderValue 0 member.2 ++ ['\n']

/-- The head of a section. -/
def renderHead (name : Text) (element : Bool) : Text :=
  if element then '[' :: '[' :: name ++ [']', ']', '\n'] else '[' :: name ++ [']', '\n']

/-- The parts of a document that stand apart by an empty line; the first argument bounds the
depth of nesting. A table that holds nothing but tables has no head of its own. -/
def renderParts : Nat → Text → Bool → Value.Members → List Text
  | 0, _, _, _ => []
  | fuel + 1, name, element, members =>
    let plain := members.filter isPlain
    let sections := members.flatMap sectionsOf
    let head :=
      if element || (!name.isEmpty && (!plain.isEmpty || sections.isEmpty)) then
        renderHead name element
      else []
    let body := head ++ plain.flatMap renderMember
    let inner := sections.flatMap fun s =>
      let key := renderKey s.name
      renderParts fuel (if name.isEmpty then key else name ++ '.' :: key) s.element s.members
    if body.isEmpty then inner else body :: inner

mutual

/-- The depth of nesting of a value. -/
def depth : Value → Nat
  | .arr elements => depthElements elements + 1
  | .obj members => depthMembers members + 1
  | _ => 0

/-- The greatest depth of elements. -/
def depthElements : List Value → Nat
  | [] => 0
  | v :: rest => max (depth v) (depthElements rest)

/-- The greatest depth of members. -/
def depthMembers : List (Name × Value) → Nat
  | [] => 0
  | (_, v) :: rest => max (depth v) (depthMembers rest)

end

mutual

/-- Why a value cannot be written, if it cannot: there is no way to write null, a string that is no
text has no bytes, and an integer must not have too many digits. The first reason counts. -/
def flaw? : Value → Option Failure
  | .null => some (.mismatch (.notWritable "NoneType"))
  | .int n =>
    if Json.digitLimit < (Nat.toDigits 10 n.natAbs).length then some .longInteger else none
  | .codes _ => some .notEncodable
  | .arr elements => elementsFlaw? elements
  | .obj members => membersFlaw? members
  | _ => none

/-- Why an element cannot be written. -/
def elementsFlaw? : List Value → Option Failure
  | [] => none
  | v :: rest => flaw? v <|> elementsFlaw? rest

/-- Why a member cannot be written. -/
def membersFlaw? : List (Name × Value) → Option Failure
  | [] => none
  | (.text _, v) :: rest => flaw? v <|> membersFlaw? rest
  | (.codes _, v) :: _ => flaw? v <|> some .notEncodable

end

/-- The document of a table. -/
def render (members : Value.Members) : Except Failure Text :=
  match membersFlaw? members with
  | some e => .error e
  | none => .ok (Text.join ['\n'] (renderParts (depthMembers members + 1) [] false members))

end Toml

end GhostEdit
