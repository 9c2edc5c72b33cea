import GhostEdit.Overlay.Mark
import GhostEdit.Value.Row

/-!
# Drawing a buffer with its overlay

The rows of a buffer and the marks of its overlay become a list of styled fragments: lines above
the first row, then each row, as it is, continued by ghost text or marked for deletion, followed
by the lines drawn below it.

## Main definitions

* `Styles`, `Styles.standard`, `Fragment`
* `Fragment.draw`: the fragments of a buffer
* `Fragment.plain`: their text
-/

namespace GhostEdit

/-- The styles of suggested text, of rows to be replaced and of everything else. -/
structure Styles where
  ghost : String
  deleted : String
  text : String
deriving DecidableEq, Inhabited

/-- The styles used unless others are given. -/
def Styles.standard : Styles :=
  { ghost := "fg:#6A9955 italic", deleted := "fg:#D16969 strike", text := "" }

/-- A stretch of text in one style, or what a host put in place of a row. -/
structure Fragment where
  style : String
  content : Value
deriving Inhabited

namespace Fragment

/-- The ghost text that continues a row: the last one put there. -/
def inlineAt? (marks : List Mark) (row : Int) : Option (Ghost × Text) :=
  marks.reverse.findSome? fun
    | .ghost g => if g.row = row then g.inline.map fun t => (g, t) else none
    | _ => none

/-- The lines drawn below a row. -/
def below (marks : List Mark) (row : Int) : List Text :=
  marks.flatMap fun
    | .ghost g => if g.row = row && (g.inline.isSome || !g.above) then g.block else []
    | _ => []

/-- The lines drawn above the first row. -/
def above (marks : List Mark) : List Text :=
  marks.flatMap fun
    | .ghost g => if g.inline.isNone && g.above then g.block else []
    | _ => []

/-- Whether a row is marked for deletion. -/
def isDeleted (marks : List Mark) (row : Int) : Bool :=
  marks.any fun
    | .deletion _ r _ => r = row
    | _ => false

/-- A fragment of text. -/
def ofText (style : String) (t : Text) : Fragment := ⟨style, .str t⟩

/-- A line of ghost text. -/
def ghostLine (styles : Styles) (line : Text) : Fragment := ofText styles.ghost (line ++ ['\n'])

/-- A row without what is drawn below it. -/
def drawRow (styles : Styles) (marks : List Mark) (row : Int) (line : Value) :
    Except Failure (List Fragment) :=
  match inlineAt? marks row with
  | some (g, rest) =>
    (line.front g.col).map fun part =>
      [⟨styles.text, part⟩, ofText styles.ghost rest, ofText styles.text ['\n']]
  | none =>
    if isDeleted marks row then .ok [⟨styles.deleted, line⟩, ofText styles.text ['\n']]
    else line.withLineEnd.map fun t => [ofText styles.text t]

/-- The rows from the one with number `row` on. -/
def drawRows (styles : Styles) (marks : List Mark) :
    Int → List Value → Except Failure (List Fragment)
  | _, [] => .ok []
  | row, line :: rest =>
    match drawRow styles marks row line with
    | .error e => .error e
    | .ok here =>
      (drawRows styles marks (row + 1) rest).map fun more =>
        here ++ (below marks row).map (ghostLine styles) ++ more

/-- A buffer with its overlay. -/
def draw (styles : Styles) (rows : List Value) (marks : List Mark) :
    Except Failure (List Fragment) :=
  (drawRows styles marks 1 rows).map fun drawn => (above marks).map (ghostLine styles) ++ drawn

/-- The text of fragments without their styles. -/
def plain (fragments : List Fragment) : Text := fragments.flatMap (·.content.displayText)

end Fragment

end GhostEdit
