import GhostEdit.Overlay.Board
import GhostEdit.Overlay.Fragment
import GhostEdit.Proofs.Alignment
import GhostEdit.Proofs.Buffer.Texts
import GhostEdit.Proofs.Overlay.Marks
import Mathlib.Data.List.Basic

/-!
# The preview shows what accepting makes

Two ways lead from a set to a text. The overlay draws the set over the document: some items continue
a row, others are blocks below a row or above the first one, and the rows that go are struck out.
The buffer takes the items one by one. This file proves that a reader who skips what is struck out
reads the document that applying the whole set makes.

## The argument

Both texts are cut at the rows of the document. What comes in at a row is drawn before that row: as
a block that hangs below the row before, or, when the row itself is continued in place, on the row
and below it. `ended_headLines_append` is the comparison at one row, and the main theorem sums it
over all rows.

## Main definitions

* `Fragment.withoutDeleted`: what is left when struck rows are skipped
* `Buffer.applyAll`: all items of a set, from the last to the first

## Main results

* `Fragment.exists_draw_texts`: what is read of a drawing of texts, whatever the marks are
* `Buffer.preview_eq_applyAll`
-/

namespace GhostEdit

/-- Lines, each with its line end. -/
def ended (lines : List Text) : Text := lines.flatMap (· ++ ['\n'])

theorem ended_cons (line : Text) (rest : List Text) :
    ended (line :: rest) = line ++ ['\n'] ++ ended rest := List.flatMap_cons

theorem ended_append (lines more : List Text) : ended (lines ++ more) = ended lines ++ ended more :=
  List.flatMap_append

/-! ## Reading fragments -/

namespace Fragment

/-- Fragments without those that are struck out. Each of these goes with the line end after it. -/
def withoutDeleted (styles : Styles) : List Fragment → List Fragment
  | [] => []
  | [f] => if f.style = styles.deleted then [] else [f]
  | f :: g :: rest =>
    if f.style = styles.deleted then withoutDeleted styles rest
    else f :: withoutDeleted styles (g :: rest)

/-- What is read of a row. -/
def shownRow (marks : List Mark) (row : Int) (line : Text) : Text :=
  match inlineAt? marks row with
  | some (g, rest) => Span.slice 0 (some g.col) line ++ rest ++ ['\n']
  | none => if isDeleted marks row then [] else line ++ ['\n']

/-- What is read of the rows from the one with number `row` on. -/
def shownRows (marks : List Mark) : Int → List Text → Text
  | _, [] => []
  | row, line :: rest =>
    shownRow marks row line ++ ended (below marks row) ++ shownRows marks (row + 1) rest

variable {styles : Styles} {marks : List Mark} {f g : Fragment} {fs gs : List Fragment}

theorem plain_append (fs gs : List Fragment) : plain (fs ++ gs) = plain fs ++ plain gs :=
  List.flatMap_append

theorem withoutDeleted_cons_of_ne (h : f.style ≠ styles.deleted) :
    withoutDeleted styles (f :: fs) = f :: withoutDeleted styles fs := by
  cases fs with
  | nil => exact if_neg h
  | cons g rest => rw [withoutDeleted, if_neg h]

theorem withoutDeleted_cons_cons (h : f.style = styles.deleted) :
    withoutDeleted styles (f :: g :: fs) = withoutDeleted styles fs := by
  rw [withoutDeleted, if_pos h]

theorem withoutDeleted_append (h : ∀ f ∈ fs, f.style ≠ styles.deleted) :
    withoutDeleted styles (fs ++ gs) = fs ++ withoutDeleted styles gs := by
  induction fs with
  | nil => rfl
  | cons f rest ih =>
    obtain ⟨hf, hrest⟩ := List.forall_mem_cons.mp h
    rw [List.cons_append, withoutDeleted_cons_of_ne hf, ih hrest, List.cons_append]

section Styles

variable (hghost : styles.ghost ≠ styles.deleted) (htext : styles.text ≠ styles.deleted)
include hghost

theorem plain_withoutDeleted_ghostLines (lines : List Text) (more : List Fragment) :
    plain (withoutDeleted styles (lines.map (ghostLine styles) ++ more))
      = ended lines ++ plain (withoutDeleted styles more) := by
  rw [withoutDeleted_append, plain_append]
  · congr 1
    rw [plain, List.flatMap_map]
    rfl
  · intro f hf
    obtain ⟨line, _, rfl⟩ := List.mem_map.mp hf
    exact hghost

include htext

theorem exists_drawRow_texts (marks : List Mark) (row : Int) (line : Text) :
    ∃ here, drawRow styles marks row (.str line) = .ok here ∧ ∀ more,
      plain (withoutDeleted styles (here ++ more))
        = shownRow marks row line ++ plain (withoutDeleted styles more) := by
  rw [drawRow, shownRow]
  cases inlineAt? marks row with
  | some found =>
    obtain ⟨g, rest⟩ := found
    refine ⟨_, rfl, fun more => ?_⟩
    rw [withoutDeleted_append (by simp [ofText, hghost, htext]), plain_append]
    congr 1
    simp [plain, ofText, Value.displayText]
  | none =>
    dsimp only
    split
    · refine ⟨_, rfl, fun more => ?_⟩
      rw [List.cons_append, List.cons_append, withoutDeleted_cons_cons rfl]
      rfl
    · refine ⟨_, rfl, fun more => ?_⟩
      rw [withoutDeleted_append (by simp [ofText, htext]), plain_append]
      congr 1
      simp [plain, ofText, Value.displayText]

theorem exists_drawRows_texts (marks : List Mark) (row : Int) (texts : List Text) :
    ∃ drawn, drawRows styles marks row (texts.map Value.str) = .ok drawn ∧
      plain (withoutDeleted styles drawn) = shownRows marks row texts := by
  induction texts generalizing row with
  | nil => exact ⟨[], rfl, rfl⟩
  | cons line rest ih =>
    obtain ⟨here, hhere, hshown⟩ := exists_drawRow_texts hghost htext marks row line
    obtain ⟨drawn, hdrawn, hrest⟩ := ih (row + 1)
    refine ⟨here ++ (below marks row).map (ghostLine styles) ++ drawn, ?_, ?_⟩
    · rw [List.map_cons, drawRows, hhere, hdrawn]
      rfl
    · rw [List.append_assoc, hshown, plain_withoutDeleted_ghostLines hghost, hrest, shownRows,
        List.append_assoc]

/-- **Drawing texts** never fails, and what is read of it is what comes above the first row, and
then each row with what is drawn below it. -/
theorem exists_draw_texts (marks : List Mark) (texts : List Text) :
    ∃ drawn, draw styles (texts.map Value.str) marks = .ok drawn ∧
      plain (withoutDeleted styles drawn) = ended (above marks) ++ shownRows marks 1 texts := by
  obtain ⟨drawn, hdrawn, hshown⟩ := exists_drawRows_texts hghost htext marks 1 texts
  refine ⟨(above marks).map (ghostLine styles) ++ drawn, ?_, ?_⟩
  · rw [draw, hdrawn]
    rfl
  · rw [plain_withoutDeleted_ghostLines hghost, hshown]

end Styles

end Fragment

/-! ## Where a row is continued -/

theorem Span.slice_zero_natCast {α : Type} (n : Nat) (xs : List α) :
    Span.slice 0 (some n) xs = xs.take n := by
  rw [Span.slice, Span.position, if_neg (by omega), Span.position, if_neg (by omega)]
  simp only [Int.toNat_zero, Nat.zero_min, List.drop_zero, Int.toNat_natCast]
  rw [List.take_eq_take_iff]
  omega

namespace Layout

/-- Up to the column where ghost text starts, the row reads as proposed. -/
theorem take_eq_take_of_inlineSplit? {existing proposed : Text} {n : Nat}
    (h : inlineSplit? existing proposed = some n) : existing.take n = proposed.take n := by
  rw [inlineSplit?] at h
  split at h
  · next hprefix =>
    cases h
    obtain ⟨rest, rfl⟩ := List.isPrefixOf_iff_prefix.mp hprefix
    rw [List.take_length, List.take_left]
  · split at h
    · next e he =>
      split at h
      · cases h
        exact Alignment.take_eq_take_of_find?_edits he
      · cases h
    · cases h

variable {texts : List Text} {cursorRow : Int} {item : Item}

theorem columnOf_pos (h : 0 < columnOf texts cursorRow item) :
    item.startRow = item.endRow ∧ item.startRow ≤ texts.length ∧
      (textAt texts item.startRow).take (columnOf texts cursorRow item)
          ++ (item.lines.headD []).drop (columnOf texts cursorRow item)
        = item.lines.headD [] := by
  rw [columnOf] at h ⊢
  split at h
  · next hrow =>
    rw [if_pos hrow]
    refine ⟨hrow.1, hrow.2.2, ?_⟩
    cases hsplit : inlineSplit? (textAt texts item.startRow) (item.lines.headD []) with
    | none => rw [hsplit] at h; cases h
    | some n =>
      rw [Option.getD_some, take_eq_take_of_inlineSplit? hsplit, List.take_append_drop]
  · cases h

/-! ## Reading the marks of an item -/

/-- The lines that are drawn before the row an item starts in: all of them, unless that row is
continued. -/
def headLinesOf (texts : List Text) (cursorRow : Int) (item : Item) : List Text :=
  if 0 < columnOf texts cursorRow item then [] else item.lines

/-- The lines that are drawn below the row an item starts in, when that row is continued. -/
def tailLinesOf (texts : List Text) (cursorRow : Int) (item : Item) : List Text :=
  if 0 < columnOf texts cursorRow item then item.lines.drop 1 else []

theorem below_ghost_cons (g : Ghost) (i : Int) (rows : List Int) (col : Int → Int) (row : Int) :
    Fragment.below (.ghost g :: rows.map fun r => .deletion i r (col r)) row
      = if g.row = row && (g.inline.isSome || !g.above) then g.block else [] := by
  rw [Fragment.below, List.flatMap_cons, List.flatMap_map]
  simp

theorem above_ghost_cons (g : Ghost) (i : Int) (rows : List Int) (col : Int → Int) :
    Fragment.above (.ghost g :: rows.map fun r => .deletion i r (col r))
      = if g.inline.isNone && g.above then g.block else [] := by
  rw [Fragment.above, List.flatMap_cons, List.flatMap_map]
  simp

theorem below_marksOf (h1 : 1 ≤ item.startRow) {row : Int} (hrow : 1 ≤ row) :
    Fragment.below (marksOf texts cursorRow item) row
      = (if item.startRow = row then tailLinesOf texts cursorRow item else [])
        ++ if item.startRow = row + 1 then headLinesOf texts cursorRow item else [] := by
  rw [marksOf, below_ghost_cons, ghostOf, tailLinesOf, headLinesOf]
  by_cases hcol : 0 < columnOf texts cursorRow item
  · simp [hcol]
  · by_cases hfirst : 1 < item.startRow
    · have hiff : item.startRow - 1 = row ↔ item.startRow = row + 1 := by omega
      simp [hcol, hfirst, hiff]
    · have hne : item.startRow ≠ row + 1 := by omega
      simp [hcol, hfirst, hne]

theorem above_marksOf (h1 : 1 ≤ item.startRow) :
    Fragment.above (marksOf texts cursorRow item)
      = if item.startRow = 1 then headLinesOf texts cursorRow item else [] := by
  rw [marksOf, above_ghost_cons, ghostOf, headLinesOf]
  by_cases hcol : 0 < columnOf texts cursorRow item
  · simp [hcol]
  · by_cases hfirst : 1 < item.startRow
    · have hne : item.startRow ≠ 1 := by omega
      simp [hcol, hfirst, hne]
    · have heq : item.startRow = 1 := by omega
      simp [hcol, heq]

theorem mem_deletedRows (hend : item.endRow ≤ texts.length) {row : Int} :
    row ∈ deletedRows item texts.length (columnOf texts cursorRow item) ↔
      item.replaces row = true ∧ ¬ (row = item.startRow ∧ 0 < columnOf texts cursorRow item) := by
  have hstop : item.stopRow = item.startRow + max 0 (item.endRow - item.startRow + 1) := rfl
  rw [deletedRows, List.mem_filter, mem_replacedRows, Item.replaces_iff]
  simp only [Bool.not_eq_true', Bool.and_eq_false_iff, decide_eq_false_iff_not]
  omega

theorem isDeleted_marksOf (hend : item.endRow ≤ texts.length) {row : Int} :
    Fragment.isDeleted (marksOf texts cursorRow item) row = true ↔
      item.replaces row = true ∧ ¬ (row = item.startRow ∧ 0 < columnOf texts cursorRow item) := by
  rw [← mem_deletedRows hend, Fragment.isDeleted, marksOf, List.any_cons, List.any_map]
  simp

/-- A mark of an item continues a row only if it is the ghost text of an item that continues its own
row. -/
theorem inline_of_mem_marksOf {m : Mark} (hm : m ∈ marksOf texts cursorRow item) {g : Ghost}
    {rest : Text} (hg : m = .ghost g) (hrest : g.inline = some rest) :
    0 < columnOf texts cursorRow item ∧ g = ghostOf item (columnOf texts cursorRow item) ∧
      g.row = item.startRow ∧
      rest = (item.lines.headD []).drop (columnOf texts cursorRow item) := by
  subst hg
  rcases List.mem_cons.mp hm with hghost | hdeletion
  · cases hghost
    by_cases hcol : 0 < columnOf texts cursorRow item
    · rw [ghostOf, if_pos hcol] at hrest ⊢
      exact ⟨hcol, rfl, rfl, (Option.some.inj hrest).symm⟩
    · rw [ghostOf, if_neg hcol] at hrest
      split at hrest <;> cases hrest
  · obtain ⟨row, _, hrow⟩ := List.mem_map.mp hdeletion
    cases hrow

/-! ## Reading the marks of a set -/

/-- The items of a set that start in a row. -/
def startingAt (set : SuggestionSet) (row : Int) : SuggestionSet := set.filter (·.startRow = row)

/-- The marks of a set over texts. -/
def overlayOf (texts : List Text) (cursorRow : Int) (set : SuggestionSet) : List Mark :=
  set.flatMap (marksOf texts cursorRow)

variable {set : SuggestionSet} {x : Item} {row : Int}

theorem startingAt_cons_of_eq (h : item.startRow = row) (rest : SuggestionSet) :
    startingAt (item :: rest) row = item :: startingAt rest row :=
  List.filter_cons_of_pos (decide_eq_true h)

theorem startingAt_cons_of_ne (h : item.startRow ≠ row) (rest : SuggestionSet) :
    startingAt (item :: rest) row = startingAt rest row :=
  List.filter_cons_of_neg (by simpa using h)

theorem startingAt_of_lt (h : ∀ item ∈ set, row < item.startRow) : startingAt set row = [] := by
  refine List.filter_eq_nil_iff.mpr fun item hitem => ?_
  have hlt := h item hitem
  simp only [decide_eq_true_eq]
  omega

/-- At most one item of a set starts in a row. -/
theorem startingAt_of_mem (hsorted : set.Pairwise fun a b => a.startRow < b.startRow)
    (hx : x ∈ set) : startingAt set x.startRow = [x] := by
  induction set with
  | nil => cases hx
  | cons first rest ih =>
    obtain ⟨hfirst, hrest⟩ := List.pairwise_cons.mp hsorted
    rcases List.mem_cons.mp hx with rfl | hx
    · rw [startingAt_cons_of_eq rfl, startingAt_of_lt hfirst]
    · have hlt := hfirst x hx
      rw [startingAt_cons_of_ne (by omega), ih hrest hx]

theorem flatMap_ite_startRow (f : Item → List Text) (set : SuggestionSet) (row : Int) :
    (set.flatMap fun item => if item.startRow = row then f item else [])
      = (startingAt set row).flatMap f := by
  induction set with
  | nil => rfl
  | cons first rest ih =>
    rw [List.flatMap_cons, ih]
    by_cases h : first.startRow = row
    · rw [if_pos h, startingAt_cons_of_eq h, List.flatMap_cons]
    · rw [if_neg h, startingAt_cons_of_ne h, List.nil_append]

/-- As the items are in order, what belongs to a row comes before what belongs to the next. -/
theorem flatMap_append_startRow (hsorted : set.Pairwise fun a b => a.startRow < b.startRow)
    (f g : Item → List Text) (row : Int) :
    (set.flatMap fun item => (if item.startRow = row then f item else [])
        ++ if item.startRow = row + 1 then g item else [])
      = (startingAt set row).flatMap f ++ (startingAt set (row + 1)).flatMap g := by
  induction set with
  | nil => rfl
  | cons first rest ih =>
    obtain ⟨hfirst, hrest⟩ := List.pairwise_cons.mp hsorted
    rw [List.flatMap_cons, ih hrest]
    by_cases h : first.startRow = row
    · rw [if_pos h, if_neg (by omega), startingAt_cons_of_eq h, startingAt_cons_of_ne (by omega),
        List.flatMap_cons, List.append_nil, List.append_assoc]
    · by_cases h' : first.startRow = row + 1
      · have hnil : startingAt rest row = [] := startingAt_of_lt fun item hitem => by
          have hlt := hfirst item hitem
          omega
        rw [if_neg h, if_pos h', startingAt_cons_of_ne h, startingAt_cons_of_eq h', hnil,
          List.flatMap_cons]
        rfl
      · rw [if_neg h, if_neg h', startingAt_cons_of_ne h, startingAt_cons_of_ne h']
        rfl

theorem above_overlayOf (h1 : ∀ item ∈ set, 1 ≤ item.startRow) :
    Fragment.above (overlayOf texts cursorRow set)
      = (startingAt set 1).flatMap (headLinesOf texts cursorRow) := by
  rw [← flatMap_ite_startRow, overlayOf, Fragment.above, List.flatMap_assoc]
  exact List.flatMap_congr fun item hitem => above_marksOf (h1 item hitem)

theorem below_overlayOf (hsorted : set.Pairwise fun a b => a.startRow < b.startRow)
    (h1 : ∀ item ∈ set, 1 ≤ item.startRow) (hrow : 1 ≤ row) :
    Fragment.below (overlayOf texts cursorRow set) row
      = (startingAt set row).flatMap (tailLinesOf texts cursorRow)
        ++ (startingAt set (row + 1)).flatMap (headLinesOf texts cursorRow) := by
  rw [← flatMap_append_startRow hsorted, overlayOf, Fragment.below, List.flatMap_assoc]
  exact List.flatMap_congr fun item hitem => below_marksOf (h1 item hitem) hrow

theorem isDeleted_overlayOf (hend : ∀ item ∈ set, item.endRow ≤ texts.length) :
    Fragment.isDeleted (overlayOf texts cursorRow set) row = true ↔
      ∃ item ∈ set, item.replaces row = true ∧
        ¬ (row = item.startRow ∧ 0 < columnOf texts cursorRow item) := by
  rw [overlayOf, Fragment.isDeleted, List.any_flatMap, List.any_eq_true]
  constructor
  · rintro ⟨item, hitem, h⟩
    exact ⟨item, hitem, (isDeleted_marksOf (hend item hitem)).mp h⟩
  · rintro ⟨item, hitem, h⟩
    exact ⟨item, hitem, (isDeleted_marksOf (hend item hitem)).mpr h⟩

theorem findSome?_eq_some_of_forall {α β : Type} {f : α → Option β} {xs : List α} {y : β}
    (hall : ∀ x ∈ xs, ∀ z, f x = some z → z = y) (hex : ∃ x ∈ xs, f x = some y) :
    xs.findSome? f = some y := by
  cases hfound : xs.findSome? f with
  | none =>
    obtain ⟨x, hx, hy⟩ := hex
    rw [List.findSome?_eq_none_iff.mp hfound x hx] at hy
    cases hy
  | some z =>
    obtain ⟨x, hx, hz⟩ := List.exists_of_findSome?_eq_some hfound
    rw [hall x hx z hz]

/-- The one item that continues a row is what is drawn on it. -/
theorem inlineAt?_overlayOf_of_mem (hsorted : set.Pairwise fun a b => a.startRow < b.startRow)
    (hx : x ∈ set) (hcol : 0 < columnOf texts cursorRow x) :
    Fragment.inlineAt? (overlayOf texts cursorRow set) x.startRow
      = some (ghostOf x (columnOf texts cursorRow x),
          (x.lines.headD []).drop (columnOf texts cursorRow x)) := by
  rw [Fragment.inlineAt?]
  refine findSome?_eq_some_of_forall ?_ ?_
  · intro m hm found hfound
    rw [List.mem_reverse] at hm
    obtain ⟨item, hitem, hm⟩ := List.mem_flatMap.mp hm
    cases m with
    | deletion => cases hfound
    | other => cases hfound
    | ghost g =>
      dsimp only at hfound
      split at hfound
      · next hrow =>
        obtain ⟨rest, hrest, rfl⟩ := Option.map_eq_some_iff.mp hfound
        obtain ⟨_, hg, hstart, hrest⟩ := inline_of_mem_marksOf hm rfl hrest
        have hitem := startingAt_of_mem hsorted hitem
        rw [← hstart, hrow, startingAt_of_mem hsorted hx] at hitem
        cases hitem
        rw [hg, hrest]
      · cases hfound
  · refine ⟨.ghost (ghostOf x (columnOf texts cursorRow x)), ?_, ?_⟩
    · exact List.mem_reverse.mpr (List.mem_flatMap.mpr ⟨x, hx, List.mem_cons_self⟩)
    · rw [ghostOf, if_pos hcol]
      dsimp only
      rw [if_pos rfl]
      rfl

theorem inlineAt?_overlayOf_eq_none
    (h : ∀ item ∈ startingAt set row, ¬ 0 < columnOf texts cursorRow item) :
    Fragment.inlineAt? (overlayOf texts cursorRow set) row = none := by
  rw [Fragment.inlineAt?, List.findSome?_eq_none_iff]
  intro m hm
  rw [List.mem_reverse] at hm
  obtain ⟨item, hitem, hm⟩ := List.mem_flatMap.mp hm
  cases m with
  | deletion => rfl
  | other => rfl
  | ghost g =>
    dsimp only
    split
    · next hrow =>
      rw [Option.map_eq_none_iff]
      cases hrest : g.inline with
      | none => rfl
      | some rest =>
        obtain ⟨hcol, _, hstart, _⟩ := inline_of_mem_marksOf hm rfl hrest
        have hmem : item ∈ startingAt set row :=
          List.mem_filter.mpr ⟨hitem, decide_eq_true (hstart.symm.trans hrow)⟩
        exact absurd hcol (h item hmem)
    · rfl

/-! ## One row -/

/-- **What is drawn at a row**, before it, on it and right below it, is what comes in there and the
row itself, unless it is replaced. -/
theorem ended_headLines_append {line : Text} (hplaced : Placed texts.length set)
    (hline : textAt texts row = line) :
    ended ((startingAt set row).flatMap (headLinesOf texts cursorRow))
        ++ (Fragment.shownRow (overlayOf texts cursorRow set) row line
          ++ ended ((startingAt set row).flatMap (tailLinesOf texts cursorRow)))
      = ended ((startingAt set row).flatMap Item.lines
          ++ if set.any (·.replaces row) then [] else [line]) := by
  have hsorted := hplaced.startRow_lt
  by_cases hinline : ∃ x ∈ startingAt set row, 0 < columnOf texts cursorRow x
  · -- one item continues the row: its first line is on it and the others below
    obtain ⟨x, hx, hcol⟩ := hinline
    obtain ⟨hmem, hstart⟩ := List.mem_filter.mp hx
    obtain rfl : x.startRow = row := of_decide_eq_true hstart
    obtain ⟨hend, hlen, hfirst⟩ := columnOf_pos hcol
    have hreplaced : set.any (·.replaces x.startRow) = true := by
      refine List.any_eq_true.mpr ⟨x, hmem, Item.replaces_iff.mpr ⟨Int.le_refl _, ?_⟩⟩
      rw [Item.stopRow, Item.replacedCount]
      omega
    rw [startingAt_of_mem hsorted hmem, hreplaced, Fragment.shownRow,
      inlineAt?_overlayOf_of_mem hsorted hmem hcol, ghostOf, if_pos hcol]
    dsimp only
    rw [List.flatMap_singleton, List.flatMap_singleton, List.flatMap_singleton, headLinesOf,
      if_pos hcol, tailLinesOf, if_pos hcol, Span.slice_zero_natCast, ← hline, hfirst, if_pos rfl,
      List.append_nil]
    cases hlines : x.lines with
    | nil => exact absurd hlines (List.length_pos_iff.mp x.length_lines_pos)
    | cons first rest => rw [ended_cons]; rfl
  · -- no item does: what comes in is all drawn before the row
    have hblock : ∀ x ∈ startingAt set row, ¬ 0 < columnOf texts cursorRow x :=
      fun x hx hcol => hinline ⟨x, hx, hcol⟩
    have hhead : (startingAt set row).flatMap (headLinesOf texts cursorRow)
        = (startingAt set row).flatMap Item.lines :=
      List.flatMap_congr fun x hx => if_neg (hblock x hx)
    have htail : (startingAt set row).flatMap (tailLinesOf texts cursorRow) = [] :=
      List.flatMap_eq_nil_iff.mpr fun x hx => if_neg (hblock x hx)
    have hdeleted : Fragment.isDeleted (overlayOf texts cursorRow set) row
        = set.any (·.replaces row) := by
      have hend : ∀ item ∈ set, item.endRow ≤ texts.length := fun item hitem =>
        (hplaced.fits item hitem).endRow_le
      rw [Bool.eq_iff_iff, isDeleted_overlayOf hend, List.any_eq_true]
      constructor
      · rintro ⟨item, hitem, hrow, _⟩
        exact ⟨item, hitem, hrow⟩
      · rintro ⟨item, hitem, hrow⟩
        refine ⟨item, hitem, hrow, fun hcontinued => hblock item ?_ hcontinued.2⟩
        exact List.mem_filter.mpr ⟨hitem, decide_eq_true hcontinued.1.symm⟩
    rw [hhead, htail, Fragment.shownRow, inlineAt?_overlayOf_eq_none hblock, hdeleted, ended_append]
    dsimp only
    split <;> simp [ended]

/-! ## All rows -/

theorem incoming_eq_map (set : SuggestionSet) (row : Int) :
    incoming set row = ((startingAt set row).flatMap Item.lines).map Value.str := by
  rw [incoming, startingAt, List.map_flatMap]
  rfl

/-- What is read from a row on, with what is drawn before it, are the lines that rewriting gives
from there on. -/
theorem exists_rewriteFrom (hplaced : Placed texts.length set) (cursorRow : Int)
    {front rest : List Text} (htexts : texts = front ++ rest) :
    ∃ new : List Text,
      rewriteFrom set (front.length + 1 : Nat) (rest.map Value.str) = new.map Value.str ∧
      ended ((startingAt set (front.length + 1 : Nat)).flatMap (headLinesOf texts cursorRow))
          ++ Fragment.shownRows (overlayOf texts cursorRow set) (front.length + 1 : Nat) rest
        = ended new := by
  induction rest generalizing front with
  | nil =>
    rw [List.append_nil] at htexts
    refine ⟨_, incoming_eq_map set _, ?_⟩
    -- past the last row there is nothing to continue
    rw [Fragment.shownRows, List.append_nil]
    congr 1
    refine List.flatMap_congr fun item hitem => if_neg fun hcol => ?_
    have hstart : item.startRow = (front.length + 1 : Nat) :=
      of_decide_eq_true (List.mem_filter.mp hitem).2
    have hlen := (columnOf_pos hcol).2.1
    rw [htexts] at hlen
    omega
  | cons line rest ih =>
    have hline : textAt texts (front.length + 1 : Nat) = line := by
      rw [textAt, htexts]
      simp
    have hnext : texts = (front ++ [line]) ++ rest := by rw [htexts, List.append_assoc]; rfl
    have hone : ∀ item ∈ set, 1 ≤ item.startRow := fun item hitem =>
      (hplaced.fits item hitem).one_le_startRow
    obtain ⟨new, hnew, hshown⟩ := ih hnext
    rw [List.length_append, List.length_singleton] at hnew hshown
    refine ⟨(startingAt set (front.length + 1 : Nat)).flatMap Item.lines
      ++ (if set.any (·.replaces (front.length + 1 : Nat)) then [] else [line]) ++ new, ?_, ?_⟩
    · rw [List.map_cons, rewriteFrom, incoming_eq_map, List.map_append, List.map_append, ← hnew]
      congr 2
      split <;> rfl
    · rw [ended_append, ← hshown, ← ended_headLines_append hplaced hline, Fragment.shownRows,
        below_overlayOf hplaced.startRow_lt hone (by omega), ended_append]
      simp only [List.append_assoc]
      rfl

theorem layout_texts (hone : ∀ item ∈ set, 1 ≤ item.startRow) (row col : Int) :
    Board.layout set (texts.map Value.str) (.at row col) = .ok (overlayOf texts row set) := by
  cases set with
  | nil => rfl
  | cons item rest => exact marks_texts hone row

end Layout

/-! ## The preview -/

/-- **The preview shows what accepting makes.** A set is placed in the texts of a buffer. Wherever
the cursor is, the set can be laid out and drawn over the buffer, and it can be applied to it; and
what is read of the drawing, without the rows that are struck out, are the lines of the buffer
then. -/
theorem Buffer.preview_eq_applyAll {texts : List Text} {set : SuggestionSet}
    (hplaced : Placed texts.length set) {b : Buffer} (hlines : b.lines = texts.map Value.str)
    (hmod : b.modifiable = true) (id : String) (row col : Int) :
    ∃ marks drawn b' new,
      Board.layout set b.lines (.at row col) = .ok marks ∧
      Fragment.draw Styles.standard b.lines marks = .ok drawn ∧
      b.applyAll id set = .ok b' ∧ b'.lines = new.map Value.str ∧
      Fragment.plain (Fragment.withoutDeleted Styles.standard drawn) = ended new := by
  have hone : ∀ item ∈ set, 1 ≤ item.startRow := fun item hitem =>
    (hplaced.fits item hitem).one_le_startRow
  obtain ⟨b', happlied, _, hrows, _⟩ := applyAll_texts hplaced id hlines hmod
  have hghost : Styles.standard.ghost ≠ Styles.standard.deleted := by decide
  have htext : Styles.standard.text ≠ Styles.standard.deleted := by decide
  obtain ⟨drawn, hdrawn, hread⟩ :=
    Fragment.exists_draw_texts hghost htext (Layout.overlayOf texts row set) texts
  obtain ⟨new, hnew, hshown⟩ :=
    Layout.exists_rewriteFrom hplaced row (List.nil_append texts).symm
  refine ⟨Layout.overlayOf texts row set, drawn, b', new, ?_, ?_, happlied, ?_, ?_⟩
  · rw [hlines]
    exact Layout.layout_texts hone row col
  · rw [hlines]
    exact hdrawn
  · rw [hrows]
    exact hnew
  · rw [hread, Layout.above_overlayOf hone]
    exact hshown

/-- The first row is continued in place and the second one struck out. -/
theorem Buffer.preview_continued :
    ∃ marks drawn new,
      Board.layout [⟨1, ['a', 'b', '\n', 'y'], 1, 1, 1⟩, ⟨2, ['z'], 2, 2, 2⟩]
        ([['a'], ['c']].map Value.str) (.at 1 1) = .ok marks ∧
      Fragment.draw Styles.standard ([['a'], ['c']].map Value.str) marks = .ok drawn ∧
      ([['a', 'b'], ['y'], ['z']] : List Text).map Value.str = new.map Value.str ∧
      Fragment.plain (Fragment.withoutDeleted Styles.standard drawn) = ended new := by
  have hplaced : Placed ([['a'], ['c']] : List Text).length
      [⟨1, ['a', 'b', '\n', 'y'], 1, 1, 1⟩, ⟨2, ['z'], 2, 2, 2⟩] := by
    refine ⟨fun item hitem => ?_, by decide⟩
    rcases List.mem_cons.mp hitem with rfl | hitem
    · exact ⟨by decide, by decide, by decide, by decide⟩
    · obtain rfl := List.mem_singleton.mp hitem
      exact ⟨by decide, by decide, by decide, by decide⟩
  obtain ⟨marks, drawn, b', new, hmarks, hdrawn, happlied, hlines, hread⟩ :=
    Buffer.preview_eq_applyAll (b := { lines := [['a'], ['c']].map Value.str }) hplaced rfl rfl
      "notes" 1 1
  cases happlied
  exact ⟨marks, drawn, new, hmarks, hdrawn, hlines, hread⟩

end GhostEdit
