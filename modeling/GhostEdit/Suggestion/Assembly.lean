import GhostEdit.Journal
import GhostEdit.Value.Display
import GhostEdit.Suggestion.Draft
import GhostEdit.Suggestion.Item
import GhostEdit.Text.Digit

/-!
# From decoded values to a suggestion set

Each decoded value gets a verdict against the rows of the buffer. Row numbers that leaked from
the prompt are removed from its content, and leading rows that are in the buffer already are
trimmed. What survives is a candidate; candidates are put in order of their start rows, and one
that reaches into the item kept before it is dropped.

## Main definitions

* `Assembly.dropRowNumber`, `leadingMatches`: the two kinds of trimming
* `Assembly.Verdict`, `Assembly.judge`: what becomes of one value
* `Assembly.sortByRow`, `keepDisjoint`, `number`: from candidates to the set
* `Assembly.build`, `Assembly.buildLog`: the set, and what is logged on the way
-/

namespace GhostEdit

namespace Assembly

/-! ## Trimming -/

/-- A row without a leading `L`, number, colon and blank. -/
def dropRowNumber (line : Text) : Text :=
  match line with
  | 'L' :: rest =>
    if (rest.takeWhile isDigit).isEmpty then line
    else
      match rest.dropWhile isDigit with
      | ':' :: ' ' :: after => after
      | _ => line
  | _ => line

/-- The rows without leaked row numbers. -/
def dropRowNumbers (lines : List Text) : List Text := lines.map dropRowNumber

/-- How many leading rows two lists share. -/
def leadingMatches : List Text → List Text → Nat
  | a :: as, b :: bs => if a = b then leadingMatches as bs + 1 else 0
  | _, _ => 0

/-- How many of `lines` agree with the rows of `current` from `row` on. Rows below one count from
the end of `current`; there is no answer when the first of them does not exist. -/
def leadingMatchesFrom? (lines : List Text) (row : Int) (current : List Text) : Option Nat :=
  if 1 ≤ row then some (leadingMatches lines (current.drop (row - 1).toNat))
  else if lines.isEmpty then some 0
  else
    let back : Int := current.length + row - 1
    if back < 0 then none else some (leadingMatches lines (current.drop back.toNat ++ current))

/-! ## Verdicts -/

/-- What becomes of one decoded value. -/
inductive Verdict where
  /-- It states no edit. -/
  | malformed (raw : Value)
  /-- It starts after the row that follows the last. -/
  | beyondEnd (row : Int)
  /-- All its rows are in the buffer already. -/
  | present (row : Int)
  /-- Nothing but one empty row is left of it. -/
  | blank (row : Int)
  /-- It is worth suggesting. -/
  | candidate (item : Item)

/-- The verdict on a draft. -/
def judgeDraft (current : List Text) (d : Draft) : Verdict :=
  if (current.length : Int) + 1 < d.startRow then .beyondEnd d.startRow
  else
    let lines := dropRowNumbers d.content.lines
    let matched := leadingMatches lines (current.drop (d.startRow - 1).toNat)
    let remaining := lines.drop matched
    if remaining.isEmpty then .present d.startRow
    else
      let content := Text.unlines remaining
      if content.isEmpty then .blank d.startRow
      else
        .candidate
          { id := 0
            content
            startRow := d.startRow + matched
            endRow := min d.endRow current.length
            firstRow := d.startRow }

/-- The verdict on a decoded value. -/
def judge (current : List Text) (raw : Value) : Verdict :=
  match Draft.ofValue? raw with
  | some d => judgeDraft current d
  | none => .malformed raw

namespace Verdict

/-- The item, if the verdict lets it through. -/
def item? : Verdict → Option Item
  | .candidate item => some item
  | _ => none

/-- What is logged about a verdict; `size` is the number of rows of the buffer. -/
def record? (size : Nat) : Verdict → Option Record
  | .malformed raw =>
    let shown := String.ofList (raw.display.take 200)
    some ⟨.warning, .answers,
      s!"Provider returned malformed or invalid suggestion data: {shown}"⟩
  | .beyondEnd row =>
    some ⟨.warning, .answers, s!"Dropping suggestion at row {row}: buffer has {size} lines"⟩
  | .present row =>
    some ⟨.debug, .answers, s!"Dropping suggestion at row {row}: already in buffer"⟩
  | .blank row => some ⟨.debug, .answers, s!"Dropping suggestion at row {row}: no content"⟩
  | .candidate _ => none

end Verdict

/-! ## Order and overlap -/

/-- Put an item before the first one that starts later or in the same row. -/
def insertByRow (item : Item) : List Item → List Item
  | [] => [item]
  | next :: rest =>
    if item.startRow ≤ next.startRow then item :: next :: rest
    else next :: insertByRow item rest

/-- The items in order of their start rows; items of the same row keep their order. -/
def sortByRow : List Item → List Item
  | [] => []
  | item :: rest => insertByRow item (sortByRow rest)

/-- Split items into those that start after the last row of the item kept before them, and the
others. `bound` is the last row of the item kept before, if there is one. -/
def keepDisjoint : Option Int → List Item → List Item × List Item
  | _, [] => ([], [])
  | bound, item :: rest =>
    if bound.any (item.firstRow ≤ ·) then
      let (kept, dropped) := keepDisjoint bound rest
      (kept, item :: dropped)
    else
      let (kept, dropped) := keepDisjoint (some item.lastRow) rest
      (item :: kept, dropped)

/-- Number items from `next` on. -/
def number : Nat → List Item → List Item
  | _, [] => []
  | next, item :: rest => { item with id := next } :: number (next + 1) rest

/-! ## The set -/

/-- The items that survive trimming, in the order of the decoded values. -/
def candidates (raws : List Value) (current : List Text) : List Item :=
  raws.filterMap fun raw => (judge current raw).item?

/-- The suggestion set of a list of decoded values. -/
def assemble (raws : List Value) (current : List Text) : SuggestionSet :=
  number 1 (keepDisjoint none (sortByRow (candidates raws current))).1

/-- The suggestion set of a decoded value; one that is no list gives the empty set. -/
def build (raw : Value) (current : List Text) : SuggestionSet :=
  match raw with
  | .arr raws => assemble raws current
  | _ => []

/-- What is logged while a set is built. -/
def buildLog (raw : Value) (current : List Text) : List Record :=
  match raw with
  | .arr raws =>
    let overlapping := (keepDisjoint none (sortByRow (candidates raws current))).2
    raws.filterMap (fun r => (judge current r).record? current.length)
      ++ overlapping.map fun item =>
        ⟨.warning, .answers,
          s!"Dropping suggestion at row {item.firstRow}: overlaps previous item"⟩
  | other => [⟨.warning, .answers, s!"Ignoring suggestion set of type {other.kind}"⟩]

end Assembly

end GhostEdit
