import GhostEdit.Value.Row

/-!
# Drafts of items

A draft is what a decoded answer says about one edit, before it is compared with any buffer:
some content and two rows, the first at least one and not beyond the second. Rows may be named
in either of two styles, and may be written as a number with a fraction of zero.

## Main definitions

* `Draft`, `Draft.ofValue?`
-/

namespace GhostEdit

/-- A proposed edit as the answer states it. -/
structure Draft where
  content : Text
  startRow : Int
  endRow : Int
deriving DecidableEq

namespace Draft

/-- The row number a value stands for. A truth value is no number. -/
def row? : Value → Option Int
  | .int n => some n
  | .float x => x.toInt?
  | _ => none

/-- A member under its first name, or under its second name if the first is absent. -/
def field? (raw : Value) (name otherName : String) : Option Value :=
  match raw.get? name with
  | some v => some v
  | none => raw.get? otherName

/-- The draft a decoded value states, if its content is a string and its rows are in order. Drafts
and items hold texts, so that a half of a pair in the value is a replacement in the draft. -/
def ofValue? (raw : Value) : Option Draft :=
  match (raw.get? "content").bind Value.chars? with
  | some content => do
    let startRow ← (field? raw "start_row" "startRow").bind row?
    let endRow ← (field? raw "end_row" "endRow").bind row?
    if 1 ≤ startRow ∧ startRow ≤ endRow then some { content, startRow, endRow } else none
  | none => none

end Draft

end GhostEdit
