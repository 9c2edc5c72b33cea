import GhostEdit.Failure
import GhostEdit.Span
import GhostEdit.Text.Blank
import GhostEdit.Text.Utf8

/-!
# Values in place of text

A row of a document is a text, but a host may put any value there, and a setting that should be a
list or a name may be anything too. The operations below do what their users need with a text, and
say what is wrong with any other value.

## Main definitions

* `Value.length`, `Value.front`, `Value.typed`, `Value.withLineEnd`: a single row
* `Value.joinRows`, `Value.joinTexts`: rows put together with line feeds
* `Value.encodable`: the text of code points that can be written
* `Value.elements`: the elements that a value has
-/

namespace GhostEdit

namespace Value

/-! ## Single rows -/

/-- The characters of a string. Halves of pairs, for which there is no character, count as
replacements, so that strings that differ in them only have the same characters. -/
def chars? : Value → Option Text
  | .str t => some t
  | .codes points => some (charsOf points)
  | _ => none

/-- The length of a row. -/
def length : Value → Except Failure Nat
  | .str t => .ok t.length
  | .codes points => .ok points.length
  | .arr elements => .ok elements.length
  | .obj members => .ok members.length
  | v => .error (.mismatch (.noLength v.kind))

/-- The part of a row before a column. -/
def front (col : Int) : Value → Except Failure Value
  | .str t => .ok (.str (Span.slice 0 (some col) t))
  | .codes points => .ok (.codes (Span.slice 0 (some col) points))
  | .arr elements => .ok (.arr (Span.slice 0 (some col) elements))
  | .obj _ => .error (.mismatch (.notName "slice"))
  | v => .error (.mismatch (.noElements v.kind))

/-- What is typed before a column of a row, without blanks at its ends. -/
def typed (col : Int) (row : Value) : Except Failure Text := do
  let part ← row.front col
  match part.chars? with
  | some t => .ok t.strip
  | none => .error (.noField part.kind "strip")

/-- A row with a line feed at its end. -/
def withLineEnd : Value → Except Failure Text
  | .str t => .ok (t ++ ['\n'])
  | .codes points => .ok (charsOf points ++ ['\n'])
  | .arr _ => .error (.mismatch (.noListSum "str"))
  | v => .error (.mismatch (.noSum v.kind "str"))

/-- A row as the text that another one may start with. -/
def asStart (row : Value) : Except Failure Text :=
  match row.chars? with
  | some t => .ok t
  | none => .error (.mismatch (.notStart row.kind))

/-- A row as a text to compare lines with. What is no text gives one that equals no line, as no
line holds a line feed. -/
def plain (row : Value) : Text := row.chars?.getD ['\n']

/-! ## Several rows -/

/-- What `part` gives for every row, with the place of the first row for which it gives nothing;
`index` is the place of the first one. -/
def collect {α : Type} (part : Value → Option α) (index : Nat) :
    List Value → Except Failure (List α)
  | [] => .ok []
  | row :: rest =>
    match part row with
    | some x => (collect part (index + 1) rest).map (x :: ·)
    | none => .error (.mismatch (.notText index row.kind))

/-- The code points of rows joined with line feeds. -/
def joinRows (rows : List Value) : Except Failure (List Nat) :=
  (collect codes? 0 rows).map fun parts => (parts.intersperse [10]).flatten

/-- The text of code points, if none of them is half of a pair: those cannot be encoded. -/
def encodable (codes : List Nat) : Except Failure Text :=
  match Utf8.gapFrom? 0 codes with
  | some _ => .error .notEncodable
  | none => .ok (codes.map Char.ofNat)

/-- Rows joined with line feeds to a text that is shown and not kept. -/
def joinTexts (rows : List Value) : Except Failure Text := (collect chars? 0 rows).map Text.unlines

theorem collect_texts (texts : List Text) (n : Nat) :
    collect chars? n (texts.map .str) = .ok texts := by
  induction texts generalizing n with
  | nil => rfl
  | cons t rest ih => exact congrArg (Except.map (t :: ·)) (ih (n + 1))

theorem joinTexts_texts (texts : List Text) :
    joinTexts (texts.map .str) = .ok (Text.unlines texts) :=
  congrArg (Except.map Text.unlines) (collect_texts texts 0)

/-! ## Elements -/

/-- The elements of a value: those of a list, the characters of a string, the names of members. -/
def elements : Value → Except Failure (List Value)
  | .arr vs => .ok vs
  | .str t => .ok (t.map fun c => .str [c])
  | .codes points =>
    .ok (points.map fun n => if n.isValidChar then .str [Char.ofNat n] else .codes [n])
  | .obj members => .ok (members.map (·.1.toValue))
  | v => .error (.mismatch (.notIterable v.kind))

end Value

end GhostEdit
