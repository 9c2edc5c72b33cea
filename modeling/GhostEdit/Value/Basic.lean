import GhostEdit.Binary64.Basic
import GhostEdit.Value.Moment

/-!
# Values from outside

Answers, settings and hosts hand over values whose kind is not known beforehand. Integers and
binary64 numbers are kept apart, as the two are written differently and behave differently as row
numbers. A string is a text, unless it has halves of code pairs that no character stands for; then
it is its list of code points. An object is the list of its members in the order in which their
names first came up.

## Main definitions

* `Value`, `Value.get?`, `Value.kind`
* `Value.setMember`: a later member of the same name replaces the value and keeps the place
* `Value.isTruthy`: whether a value counts as true
-/

namespace GhostEdit

/-- The name of a member. -/
inductive Name where
  | text (t : Text)
  /-- Code points that are no text. -/
  | codes (points : List Nat)
deriving DecidableEq, Inhabited

/-- A value. -/
inductive Value where
  | null
  | bool (b : Bool)
  | int (n : Int)
  | float (x : Binary64)
  | str (t : Text)
  /-- A string whose code points are no text. -/
  | codes (points : List Nat)
  /-- A date or a time. -/
  | moment (m : Moment)
  | arr (elements : List Value)
  | obj (members : List (Name × Value))
deriving Inhabited

namespace Name

/-- The text of a name, if it is one. -/
def text? : Name → Option Text
  | .text t => some t
  | .codes _ => none

/-- A name as a value. -/
def toValue : Name → Value
  | .text t => .str t
  | .codes points => .codes points

end Name

namespace Value

/-- The members of an object. -/
abbrev Members := List (Name × Value)

/-- A string value. -/
def ofString (s : String) : Value := .str s.toList

/-- A member with a name. -/
def member (name : String) (v : Value) : Name × Value := (.text name.toList, v)

/-- The value of a member, if the value is an object that has it. -/
def get? (v : Value) (name : String) : Option Value :=
  match v with
  | .obj members => members.lookup (.text name.toList)
  | _ => none

/-- Give a member a value: in place if the name is known, else at the end. -/
def setMember (name : Name) (v : Value) : Members → Members
  | [] => [(name, v)]
  | (n, w) :: rest => if n = name then (n, v) :: rest else (n, w) :: setMember name v rest

/-- The name of the kind of a value, as messages show it. -/
def kind : Value → String
  | .null => "NoneType"
  | .bool _ => "bool"
  | .int _ => "int"
  | .float _ => "float"
  | .str _ => "str"
  | .codes _ => "str"
  | .moment m => m.kind
  | .arr _ => "list"
  | .obj _ => "dict"

/-- The text of a value, if it is one. -/
def text? : Value → Option Text
  | .str t => some t
  | _ => none

/-- The code points of a string. -/
def codes? : Value → Option (List Nat)
  | .str t => some (t.map Char.toNat)
  | .codes points => some points
  | _ => none

/-- Whether a value counts as true: everything does but null, false, zero and what is empty. -/
def isTruthy : Value → Bool
  | .null => false
  | .bool b => b
  | .int n => n ≠ 0
  | .float x => !x.isFinite || x.magnitude ≠ 0
  | .str t => !t.isEmpty
  | .codes points => !points.isEmpty
  | .moment _ => true
  | .arr elements => !elements.isEmpty
  | .obj members => !members.isEmpty

end Value

end GhostEdit
