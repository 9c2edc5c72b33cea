import Mathlib.Algebra.Ring.Int.Defs
import GhostEdit.Buffer.Apply
import GhostEdit.Proofs.Suggestion.Placement

/-!
# Rewriting a document by a set of items at once

Items are applied one at a time, and each one moves the rows below it. What a whole set amounts to
is easier to say without any order: `rewriteRows` goes through the rows of the document once, in
the numbering of the document, puts the content of an item where the item starts and leaves out
the rows that some item replaces. This file proves that applying one more item to a document
rewritten by some others gives the document rewritten by all of them, provided the item is moved
by what the others above it have grown.

## Two forms of the same document

`rewriteRows` asks every row about every item, which is the right form for statements and for
comparing with what is drawn row by row. `rewriteInOrder` goes from item to item and copies whole
stretches, which is the right form for induction on the items. They agree on items that are
stacked (`rewriteFrom_eq_rewriteInOrder`), and only on those.

## No bounds in the basic equation

`applyRows_eq` holds for every item that starts at a row of at least one, also for one that lies
past the end of the document: then the gap is filled first and nothing is removed.

## Main definitions

* `Item.growth`, `growthOf`: by how many rows an item, or several, lengthen a document
* `rewriteRows`: a document rewritten by items at once
* `Stacked`: items one below the other between two rows

## Main results

* `Buffer.applyRows_eq`: what applying one item does to the rows
* `Placed.stacked`: the items of a placed set are stacked
* `applyRows_shift_rewriteRows`: one more item
* `length_rewriteRows`: the number of rows after rewriting
-/

namespace GhostEdit

/-! ## Stretches and rows -/

theorem Span.position_of_le {length : Nat} {i : Int} (h0 : 0 ≤ i) (h : i ≤ length) :
    Span.position length i = i.toNat := by
  rw [Span.position, if_neg (by omega), Nat.min_eq_left (by omega)]

theorem Span.splice_eq {α : Type} {start stop : Int} {xs : List α} (h0 : 0 ≤ start)
    (hs : start ≤ stop) (hl : stop ≤ xs.length) (new : List α) :
    Span.splice start stop new xs = xs.take start.toNat ++ new ++ xs.drop stop.toNat := by
  rw [Span.splice, Span.position_of_le h0 (by omega), Span.position_of_le (by omega) hl,
    Nat.max_eq_right (by omega)]

namespace Buffer

theorem length_padTo (start : Int) (rows : List Value) :
    ((padTo start rows).length : Int) = max start rows.length := by
  rw [padTo, List.length_append, List.length_replicate]
  omega

theorem padTo_of_le {start : Int} {rows : List Value} (h : start ≤ rows.length) :
    padTo start rows = rows := by
  rw [padTo, Int.toNat_of_nonpos (by omega), List.replicate_zero, List.append_nil]

theorem nonEmpty_of_ne_nil {rows : List Value} (h : rows ≠ []) : nonEmpty rows = rows := by
  rw [nonEmpty, if_neg (by simpa using h)]

/-- Replacing rows, without the clipping: what is replaced past the end is not there anyway. -/
theorem replaceRows_eq {start stop : Int} (h0 : 0 ≤ start) (hs : start ≤ stop)
    (new rows : List Value) :
    replaceRows start stop new rows
      = nonEmpty ((padTo start rows).take start.toNat ++ new ++ rows.drop stop.toNat) := by
  have hlen := length_padTo start rows
  have hdrop : (padTo start rows).drop (max start (min stop (padTo start rows).length)).toNat
      = rows.drop stop.toNat := by
    by_cases hpad : start ≤ rows.length
    · rw [padTo_of_le hpad]
      by_cases hstop : stop ≤ rows.length
      · rw [show max start (min stop (rows.length : Int)) = stop by omega]
      · rw [List.drop_eq_nil_of_le (by omega), List.drop_eq_nil_of_le (by omega)]
    · rw [List.drop_eq_nil_of_le (by omega), List.drop_eq_nil_of_le (by omega)]
  rw [replaceRows, Span.splice_eq h0 (by omega) (by omega), hdrop]

theorem take_padTo_of_le {start mid : Int} (h : start ≤ mid) (rows : List Value) :
    (padTo mid rows).take start.toNat = (padTo start rows).take start.toNat := by
  by_cases hin : start ≤ rows.length
  · rw [padTo_of_le hin, padTo, List.take_append_of_le_length (by omega)]
  · rw [padTo, padTo, List.take_append, List.take_append, List.take_replicate,
      List.take_replicate]
    congr 2
    omega

/-- Removing the surplus rows before the rest is overwritten gives what one replacement gives. -/
theorem replaceRows_replaceRows {start stop : Int} {new : List Value} (h0 : 0 ≤ start)
    (hnew : new ≠ []) (hs : start + new.length ≤ stop) (rows : List Value) :
    replaceRows start (start + new.length) new
        (replaceRows (start + new.length) stop [] rows)
      = replaceRows start stop new rows := by
  have hpos : 0 < new.length := List.length_pos_iff.mpr hnew
  have hpad := length_padTo (start + new.length) rows
  -- what is left of the old rows reaches at least to the end of the new ones
  have hleft : ((padTo (start + new.length) rows).take (start + new.length).toNat).length
      = (start + new.length).toNat := by
    rw [List.length_take]
    omega
  have hcut : replaceRows (start + new.length) stop [] rows
      = (padTo (start + new.length) rows).take (start + new.length).toNat
        ++ rows.drop stop.toNat := by
    rw [replaceRows_eq (by omega) hs, List.append_nil, nonEmpty_of_ne_nil]
    intro hnil
    rw [(List.append_eq_nil_iff.mp hnil).1, List.length_nil] at hleft
    omega
  have hin : start ≤ (((padTo (start + new.length) rows).take (start + new.length).toNat
      ++ rows.drop stop.toNat).length : Nat) := by
    rw [List.length_append]
    omega
  rw [hcut, replaceRows_eq h0 (by omega), replaceRows_eq h0 (by omega), padTo_of_le hin,
    List.take_append_of_le_length (by omega), List.take_take, Nat.min_eq_left (by omega),
    take_padTo_of_le (by omega), List.drop_append_of_le_length (by omega),
    List.drop_eq_nil_of_le (by omega), List.nil_append]

end Buffer

/-! ## Items as edits -/

namespace Item

/-- The rows an item brings in. -/
def rows (item : Item) : List Value := item.lines.map Value.str

/-- The row after those that an item replaces. -/
def stopRow (item : Item) : Int := item.startRow + item.replacedCount

/-- By how many rows an item lengthens a document; negative if it shortens it. -/
def growth (item : Item) : Int := item.lines.length - item.replacedCount

/-- Whether an item replaces a row. -/
def replaces (item : Item) (row : Int) : Bool := item.startRow ≤ row && row < item.stopRow

theorem replaces_iff {item : Item} {row : Int} :
    item.replaces row = true ↔ item.startRow ≤ row ∧ row < item.stopRow := by
  rw [replaces, Bool.and_eq_true, decide_eq_true_eq, decide_eq_true_eq]

theorem length_rows (item : Item) : item.rows.length = item.lines.length := List.length_map _

/-- Even the empty content is one row. -/
theorem length_lines_pos (item : Item) : 0 < item.lines.length :=
  List.length_pos_iff.mpr (Text.pieces_ne_nil '\n' item.content)

theorem rows_ne_nil (item : Item) : item.rows ≠ [] := by
  intro h
  have hlen := item.length_rows
  have hpos := item.length_lines_pos
  rw [h, List.length_nil] at hlen
  omega

theorem replacedCount_nonneg (item : Item) : 0 ≤ item.replacedCount := Int.le_max_left _ _

theorem startRow_le_stopRow (item : Item) : item.startRow ≤ item.stopRow := by
  have h := item.replacedCount_nonneg
  rw [stopRow]
  omega

theorem stopRow_le_lastRow_add_one (item : Item) : item.stopRow ≤ item.lastRow + 1 := by
  rw [stopRow, replacedCount, lastRow]
  omega

theorem endRow_lt_stopRow (item : Item) : item.endRow < item.stopRow := by
  rw [stopRow, replacedCount]
  omega

theorem Fits.stopRow_le {size : Nat} {item : Item} (h : item.Fits size) :
    item.stopRow ≤ size + 1 := by
  have hstart := h.startRow_le
  have hend := h.endRow_le
  rw [stopRow, replacedCount]
  omega

/-- What an item adds to the row after it, counted from its first new row. -/
theorem stopRow_add_growth (item : Item) :
    item.stopRow + item.growth = item.startRow + item.lines.length := by
  rw [stopRow, growth]
  omega

variable (d : Int) (item : Item)

@[simp] theorem id_shift : (item.shift d).id = item.id := rfl

@[simp] theorem startRow_shift : (item.shift d).startRow = item.startRow + d := rfl

@[simp] theorem endRow_shift : (item.shift d).endRow = item.endRow + d := rfl

@[simp] theorem firstRow_shift : (item.shift d).firstRow = item.firstRow + d := rfl

@[simp] theorem lines_shift : (item.shift d).lines = item.lines := rfl

@[simp] theorem rows_shift : (item.shift d).rows = item.rows := rfl

@[simp] theorem replacedCount_shift : (item.shift d).replacedCount = item.replacedCount := by
  rw [replacedCount, replacedCount, endRow_shift, startRow_shift]
  omega

@[simp] theorem lastRow_shift : (item.shift d).lastRow = item.lastRow + d := by
  rw [lastRow, lastRow, endRow_shift, startRow_shift]
  omega

@[simp] theorem growth_shift : (item.shift d).growth = item.growth := by
  rw [growth, growth, lines_shift, replacedCount_shift]

@[simp] theorem stopRow_shift : (item.shift d).stopRow = item.stopRow + d := by
  rw [stopRow, stopRow, startRow_shift, replacedCount_shift]
  omega

theorem shift_shift (e : Int) : (item.shift d).shift e = item.shift (d + e) := by
  simp only [shift, Int.add_assoc]

theorem shift_zero : item.shift 0 = item := by
  simp only [shift, Int.add_zero]

end Item

/-- **Applying one item.** The rows before it stay, the rows it replaces make room for its content,
and the rows after them follow; a gap before it is filled with empty rows. -/
theorem Buffer.applyRows_eq {item : Item} (h : 1 ≤ item.startRow) (rows : List Value) :
    Buffer.applyRows item rows
      = (padTo (item.startRow - 1) rows).take (item.startRow - 1).toNat ++ item.rows
        ++ rows.drop (item.stopRow - 1).toNat := by
  have hcount := item.replacedCount_nonneg
  have hstop : item.startRow - 1 + item.replacedCount = item.stopRow - 1 := by
    rw [Item.stopRow]
    omega
  have happly : Buffer.applyRows item rows
      = replaceRows (item.startRow - 1) (item.stopRow - 1) item.rows rows := by
    rw [Buffer.applyRows]
    change (if (item.rows.length : Int) < item.replacedCount then _ else _) = _
    split
    · next hshrink =>
      have hend : item.endRow = item.stopRow - 1 := by
        rw [Item.stopRow]
        rw [Item.replacedCount] at hshrink ⊢
        omega
      rw [hend]
      exact replaceRows_replaceRows (by omega) item.rows_ne_nil (by omega) rows
    · rw [hstop]
      rfl
  rw [happly, replaceRows_eq (by omega) (by omega), nonEmpty_of_ne_nil]
  simp [item.rows_ne_nil]

/-- **How long a document is after an item was applied.** One that ends past the document brings the
rows up to its end along. -/
theorem Buffer.length_applyRows {item : Item} (h : 1 ≤ item.startRow) (rows : List Value) :
    ((Buffer.applyRows item rows).length : Int)
      = max ((rows.length : Int) + 1) item.stopRow + item.growth - 1 := by
  have hpad := length_padTo (item.startRow - 1) rows
  have hspan := item.startRow_le_stopRow
  have hgrow := item.stopRow_add_growth
  have hrows := item.length_rows
  rw [applyRows_eq h, List.length_append, List.length_append, List.length_take, List.length_drop]
  omega

/-! ## Rewriting at once -/

/-- By how many rows several items lengthen a document. -/
def growthOf (items : List Item) : Int := (items.map Item.growth).sum

@[simp] theorem growthOf_nil : growthOf [] = 0 := rfl

@[simp] theorem growthOf_cons (item : Item) (rest : List Item) :
    growthOf (item :: rest) = item.growth + growthOf rest := by
  rw [growthOf, List.map_cons, List.sum_cons, growthOf]

theorem growthOf_append (items others : List Item) :
    growthOf (items ++ others) = growthOf items + growthOf others := by
  rw [growthOf, List.map_append, List.sum_append, growthOf, growthOf]

/-- The content of the items that start in a row. -/
def incoming (items : List Item) (row : Int) : List Value :=
  (items.filter (·.startRow = row)).flatMap Item.rows

/-- The rows of the rest of a document, whose first row has the number `row`, after all items were
written into it: before each row what comes in there, then the row itself unless it is replaced. -/
def rewriteFrom (items : List Item) : Int → List Value → List Value
  | row, [] => incoming items row
  | row, line :: rest =>
    incoming items row ++ (if items.any (·.replaces row) then [] else [line])
      ++ rewriteFrom items (row + 1) rest

/-- A document rewritten by items at once. Rows are numbered as in the document as it was. -/
def rewriteRows (items : List Item) (rows : List Value) : List Value := rewriteFrom items 1 rows

theorem incoming_cons (item : Item) (rest : List Item) (row : Int) :
    incoming (item :: rest) row
      = (if item.startRow = row then item.rows else []) ++ incoming rest row := by
  by_cases h : item.startRow = row
  · simp [incoming, h]
  · simp [incoming, h]

theorem incoming_of_lt {items : List Item} {row : Int} (h : ∀ item ∈ items, row < item.startRow) :
    incoming items row = [] := by
  rw [incoming, List.filter_eq_nil_iff.mpr, List.flatMap_nil]
  intro item hitem
  have := h item hitem
  simp only [decide_eq_true_eq]
  omega

theorem any_replaces_of_lt {items : List Item} {row : Int}
    (h : ∀ item ∈ items, row < item.startRow) : items.any (·.replaces row) = false := by
  rw [List.any_eq_false]
  intro item hitem
  have := h item hitem
  simp only [Item.replaces, Bool.and_eq_true, decide_eq_true_eq]
  omega

theorem rewriteFrom_nil (row : Int) (rows : List Value) : rewriteFrom [] row rows = rows := by
  induction rows generalizing row with
  | nil => rfl
  | cons line rest ih => simp [rewriteFrom, incoming, ih]

theorem rewriteRows_nil (rows : List Value) : rewriteRows [] rows = rows := rewriteFrom_nil 1 rows

/-- An item that lies behind has no part in the rows that follow. -/
theorem rewriteFrom_cons_of_past {item : Item} {rest : List Item} {row : Int}
    (hstart : item.startRow < row) (hstop : item.stopRow ≤ row) (rows : List Value) :
    rewriteFrom (item :: rest) row rows = rewriteFrom rest row rows := by
  induction rows generalizing row with
  | nil => rw [rewriteFrom, rewriteFrom, incoming_cons, if_neg (by omega), List.nil_append]
  | cons line lines ih =>
    have hrep : item.replaces row = false := by
      simp only [Item.replaces, Bool.and_eq_false_iff, decide_eq_false_iff_not]
      omega
    rw [rewriteFrom, rewriteFrom, incoming_cons, if_neg (by omega), List.nil_append,
      List.any_cons, hrep, Bool.false_or, ih (by omega) (by omega)]

/-- Once an item has come in, its replaced rows are passed over. -/
theorem rewriteFrom_cons_of_within {item : Item} {rest : List Item}
    (hrest : ∀ x ∈ rest, item.stopRow ≤ x.startRow) {row : Int} {rows : List Value}
    (hstart : item.startRow < row) (hstop : row ≤ item.stopRow)
    (hlen : item.stopRow ≤ row + rows.length) :
    rewriteFrom (item :: rest) row rows
      = rewriteFrom rest item.stopRow (rows.drop (item.stopRow - row).toNat) := by
  induction rows generalizing row with
  | nil =>
    have hrow : row = item.stopRow := by
      rw [List.length_nil] at hlen
      omega
    rw [rewriteFrom_cons_of_past hstart (by omega), List.drop_nil, hrow]
  | cons line lines ih =>
    rcases Int.lt_or_le row item.stopRow with hlt | hge
    · have hbelow : ∀ x ∈ rest, row < x.startRow := by
        intro x hx
        have := hrest x hx
        omega
      have hrep : item.replaces row = true := by
        simp only [Item.replaces, Bool.and_eq_true, decide_eq_true_eq]
        omega
      rw [List.length_cons] at hlen
      rw [rewriteFrom, incoming_cons, if_neg (by omega), incoming_of_lt hbelow, List.any_cons,
        hrep, Bool.true_or, if_pos rfl, ih (by omega) (by omega) (by omega),
        show (item.stopRow - row).toNat = (item.stopRow - (row + 1)).toNat + 1 by omega,
        List.drop_succ_cons]
      rfl
    · have hrow : row = item.stopRow := by omega
      rw [rewriteFrom_cons_of_past hstart (by omega), hrow, Int.sub_self]
      rfl

/-- The first item of a stack: the rows before it are copied, its content comes in, its replaced
rows are passed over. -/
theorem rewriteFrom_cons {item : Item} {rest : List Item}
    (hrest : ∀ x ∈ rest, item.stopRow ≤ x.startRow) {row : Int} {rows : List Value}
    (hrow : row ≤ item.startRow) (hlen : item.stopRow ≤ row + rows.length) :
    rewriteFrom (item :: rest) row rows
      = rows.take (item.startRow - row).toNat ++ item.rows
        ++ rewriteFrom rest item.stopRow (rows.drop (item.stopRow - row).toNat) := by
  have hspan := item.startRow_le_stopRow
  induction rows generalizing row with
  | nil =>
    rw [List.length_nil] at hlen
    rw [rewriteFrom, incoming_cons, if_pos (by omega), List.take_nil, List.drop_nil, rewriteFrom,
      show item.stopRow = row by omega, List.nil_append]
  | cons line lines ih =>
    rw [List.length_cons] at hlen
    rcases Int.lt_or_le row item.startRow with hlt | hge
    · have hbelow : ∀ x ∈ item :: rest, row < x.startRow := by
        intro x hx
        rcases List.mem_cons.mp hx with rfl | hx
        · exact hlt
        · have := hrest x hx
          omega
      rw [rewriteFrom, incoming_of_lt hbelow, any_replaces_of_lt hbelow, if_neg (by simp),
        ih (by omega) (by omega),
        show (item.startRow - row).toNat = (item.startRow - (row + 1)).toNat + 1 by omega,
        show (item.stopRow - row).toNat = (item.stopRow - (row + 1)).toNat + 1 by omega,
        List.take_succ_cons, List.drop_succ_cons]
      simp
    · have hstart : item.startRow = row := by omega
      rw [hstart, Int.sub_self, Int.toNat_zero, List.take_zero, List.nil_append]
      rcases Int.lt_or_le row item.stopRow with hlt | hge
      · have hbelow : ∀ x ∈ rest, row < x.startRow := by
          intro x hx
          have := hrest x hx
          omega
        have hrep : item.replaces row = true := by
          simp only [Item.replaces, Bool.and_eq_true, decide_eq_true_eq]
          omega
        rw [rewriteFrom, incoming_cons, if_pos hstart, incoming_of_lt hbelow, List.any_cons, hrep,
          Bool.true_or, if_pos rfl, List.append_nil, List.append_nil,
          rewriteFrom_cons_of_within hrest (by omega) (by omega) (by omega),
          show (item.stopRow - row).toNat = (item.stopRow - (row + 1)).toNat + 1 by omega,
          List.drop_succ_cons]
      · have hrep : item.replaces row = false := by
          simp only [Item.replaces, Bool.and_eq_false_iff, decide_eq_false_iff_not]
          omega
        rw [show item.stopRow = row by omega, Int.sub_self, Int.toNat_zero, List.drop_zero,
          rewriteFrom, incoming_cons, if_pos hstart, List.any_cons, hrep, Bool.false_or,
          rewriteFrom_cons_of_past (by omega) (by omega), rewriteFrom]
        simp only [List.append_assoc]

/-! ## Stacked items -/

/-- The items stand one below the other, from row `first` on and before row `last`. -/
def Stacked (last : Int) : Int → List Item → Prop
  | first, [] => first ≤ last
  | first, item :: rest => first ≤ item.startRow ∧ Stacked last item.stopRow rest

namespace Stacked

variable {first last : Int} {item : Item} {items others : List Item}

theorem mono {first' : Int} (h : Stacked last first items) (hle : first' ≤ first) :
    Stacked last first' items := by
  cases items with
  | nil => exact Int.le_trans hle h
  | cons item rest => exact ⟨Int.le_trans hle h.1, h.2⟩

theorem le (h : Stacked last first items) : first ≤ last := by
  induction items generalizing first with
  | nil => exact h
  | cons item rest ih =>
    have hspan := item.startRow_le_stopRow
    have hstart := h.1
    have hstop := ih h.2
    omega

theorem startRow_ge (h : Stacked last first items) : ∀ x ∈ items, first ≤ x.startRow := by
  induction items generalizing first with
  | nil => simp
  | cons item rest ih =>
    intro x hx
    rcases List.mem_cons.mp hx with rfl | hx
    · exact h.1
    · have hspan := item.startRow_le_stopRow
      have hstart := h.1
      have hbelow := ih h.2 x hx
      omega

theorem sublist (h : Stacked last first items) (hsub : others.Sublist items) :
    Stacked last first others := by
  induction hsub generalizing first with
  | slnil => exact h
  | @cons others rest item _ ih =>
    have hspan := item.startRow_le_stopRow
    have hstart := h.1
    exact (ih h.2).mono (by omega)
  | cons_cons item _ ih => exact ⟨h.1, ih h.2⟩

/-- What the items above an item have grown never moves it above where they began. -/
theorem le_startRow_add_growthOf (h : Stacked last first (items ++ item :: others)) :
    first ≤ item.startRow + growthOf items := by
  induction items generalizing first with
  | nil =>
    have hstart : first ≤ item.startRow := h.1
    rw [growthOf_nil]
    omega
  | cons above rest ih =>
    have hstart : first ≤ above.startRow := h.1
    have hrest := ih h.2
    have hgrow := above.stopRow_add_growth
    rw [growthOf_cons]
    omega

theorem below (h : Stacked last first (items ++ item :: others)) :
    Stacked last item.stopRow others := by
  induction items generalizing first with
  | nil => exact h.2
  | cons above rest ih => exact ih h.2

/-- Nor does what the items have grown ever move the end above their beginning. -/
theorem le_add_growthOf (h : Stacked last first items) : first ≤ last + growthOf items := by
  induction items generalizing first with
  | nil =>
    have hle : first ≤ last := h
    rw [growthOf_nil]
    omega
  | cons item rest ih =>
    have hstart := h.1
    have hrest := ih h.2
    have hgrow := item.stopRow_add_growth
    rw [growthOf_cons]
    omega

end Stacked

/-- The items of a placed set that end before row `last` are stacked. -/
theorem Placed.stacked_of_stopRow_le {size : Nat} {set : SuggestionSet} (h : Placed size set)
    {first last : Int} (hle : first ≤ last)
    (hmem : ∀ item ∈ set, first ≤ item.startRow ∧ item.stopRow ≤ last) :
    Stacked last first set := by
  induction set generalizing first with
  | nil => exact hle
  | cons item rest ih =>
    obtain ⟨hstart, hstop⟩ := hmem item List.mem_cons_self
    refine ⟨hstart, ih h.tail hstop ?_⟩
    intro x hx
    have hapart := (List.pairwise_cons.mp h.apart).1 x hx
    have hx' := (h.fits x (List.mem_cons_of_mem item hx)).firstRow_le_startRow
    have hlast := item.stopRow_le_lastRow_add_one
    exact ⟨by omega, (hmem x (List.mem_cons_of_mem item hx)).2⟩

theorem Placed.stacked {size : Nat} {set : SuggestionSet} (h : Placed size set) :
    Stacked (size + 1) 1 set := by
  refine h.stacked_of_stopRow_le (by omega) ?_
  intro item hitem
  have hone := (h.fits item hitem).one_le_firstRow
  have hfirst := (h.fits item hitem).firstRow_le_startRow
  exact ⟨by omega, (h.fits item hitem).stopRow_le⟩

/-- The same document, built from item to item. -/
def rewriteInOrder : Int → List Item → List Value → List Value
  | _, [], rows => rows
  | row, item :: rest, rows =>
    rows.take (item.startRow - row).toNat ++ item.rows
      ++ rewriteInOrder item.stopRow rest (rows.drop (item.stopRow - row).toNat)

/-- A stack that begins further down stands in the rows that are left from there on. -/
theorem Stacked.drop {items : List Item} {row first : Int} {rows : List Value}
    (h : Stacked (row + rows.length) first items) (hle : row ≤ first) :
    Stacked (first + (rows.drop (first - row).toNat).length) first items := by
  have hlen := h.le
  have hend : first + ((rows.drop (first - row).toNat).length : Int) = row + rows.length := by
    rw [List.length_drop]
    omega
  rw [hend]
  exact h

theorem rewriteFrom_eq_rewriteInOrder {items : List Item} {row : Int} {rows : List Value}
    (h : Stacked (row + rows.length) row items) :
    rewriteFrom items row rows = rewriteInOrder row items rows := by
  induction items generalizing row rows with
  | nil => exact rewriteFrom_nil row rows
  | cons item rest ih =>
    obtain ⟨hrow, hrest⟩ := h
    have hspan := item.startRow_le_stopRow
    have hbelow := ih (hrest.drop (by omega))
    rw [rewriteFrom_cons hrest.startRow_ge hrow hrest.le, rewriteInOrder, hbelow]

theorem length_rewriteInOrder {items : List Item} {row : Int} {rows : List Value}
    (h : Stacked (row + rows.length) row items) :
    ((rewriteInOrder row items rows).length : Int) = rows.length + growthOf items := by
  induction items generalizing row rows with
  | nil => simp [rewriteInOrder]
  | cons item rest ih =>
    obtain ⟨hrow, hrest⟩ := h
    have hspan := item.startRow_le_stopRow
    have hlen := hrest.le
    have hgrow := item.stopRow_add_growth
    have hrows := item.length_rows
    have hbelow := ih (hrest.drop (by omega))
    rw [List.length_drop] at hbelow
    rw [rewriteInOrder, List.length_append, List.length_append, List.length_take, growthOf_cons]
    omega

/-- The rows before a stack can be copied first. -/
theorem rewriteInOrder_of_le {items : List Item} {row first : Int} {rows : List Value}
    (h : Stacked (row + rows.length) first items) (hle : row ≤ first) :
    rewriteInOrder row items rows
      = rows.take (first - row).toNat
        ++ rewriteInOrder first items (rows.drop (first - row).toNat) := by
  cases items with
  | nil => exact (List.take_append_drop _ rows).symm
  | cons item rest =>
    have hstart := h.1
    have hspan := item.startRow_le_stopRow
    have htake : rows.take (item.startRow - row).toNat
        = rows.take (first - row).toNat
          ++ (rows.drop (first - row).toNat).take (item.startRow - first).toNat := by
      rw [← List.take_add]
      congr 1
      omega
    rw [rewriteInOrder, rewriteInOrder, List.drop_drop, htake,
      show (first - row).toNat + (item.stopRow - first).toNat = (item.stopRow - row).toNat by omega]
    simp only [List.append_assoc]

/-- **One more item.** Writing an item into a document that the others were written into replaces
one stretch of it; the items above it decide where the stretch begins. -/
theorem rewriteInOrder_insert {above below : List Item} {item : Item} {row : Int}
    {rows : List Value} (h : Stacked (row + rows.length) row (above ++ item :: below)) :
    rewriteInOrder row (above ++ item :: below) rows
      = (rewriteInOrder row (above ++ below) rows).take
          (item.startRow + growthOf above - row).toNat
        ++ item.rows
        ++ (rewriteInOrder row (above ++ below) rows).drop
          (item.stopRow + growthOf above - row).toNat := by
  induction above generalizing row rows with
  | nil =>
    obtain ⟨hrow, hbelow⟩ := h
    have hspan := item.startRow_le_stopRow
    have hlen := hbelow.le
    have htake : (rows.take (item.stopRow - row).toNat).length = (item.stopRow - row).toNat := by
      rw [List.length_take]
      omega
    have hcopy := rewriteInOrder_of_le hbelow (show row ≤ item.stopRow by omega)
    have hfront : (rewriteInOrder row below rows).take (item.startRow - row).toNat
        = rows.take (item.startRow - row).toNat := by
      rw [hcopy, List.take_append_of_le_length (by omega), List.take_take,
        Nat.min_eq_left (by omega)]
    have hback : (rewriteInOrder row below rows).drop (item.stopRow - row).toNat
        = rewriteInOrder item.stopRow below (rows.drop (item.stopRow - row).toNat) := by
      rw [hcopy]
      exact List.drop_left' htake
    rw [List.nil_append, List.nil_append, rewriteInOrder, growthOf_nil, Int.add_zero, Int.add_zero,
      hfront, hback]
  | cons first rest ih =>
    obtain ⟨hrow, hrest⟩ := h
    have hspan := first.startRow_le_stopRow
    have hitem := item.startRow_le_stopRow
    have hlen := hrest.le
    have hgrow := first.stopRow_add_growth
    have hrows := first.length_rows
    have hbound := hrest.le_startRow_add_growthOf
    have hbelow := ih (hrest.drop (by omega))
    have hfront : (rows.take (first.startRow - row).toNat ++ first.rows).length
        = (first.startRow - row).toNat + first.lines.length := by
      rw [List.length_append, List.length_take]
      omega
    -- both sides begin with the rows up to the end of the first item; the rest is the hypothesis
    rw [List.cons_append, List.cons_append, rewriteInOrder, rewriteInOrder,
      hbelow, growthOf_cons,
      show (item.startRow + (first.growth + growthOf rest) - row).toNat
        = (rows.take (first.startRow - row).toNat ++ first.rows).length
          + (item.startRow + growthOf rest - first.stopRow).toNat by omega,
      show (item.stopRow + (first.growth + growthOf rest) - row).toNat
        = (rows.take (first.startRow - row).toNat ++ first.rows).length
          + (item.stopRow + growthOf rest - first.stopRow).toNat by omega,
      List.take_length_add_append, List.drop_length_add_append]
    simp only [List.append_assoc]

/-! ## Applying to a rewritten document -/

variable {rows : List Value}

theorem rewriteRows_eq {items : List Item} (h : Stacked (rows.length + 1) 1 items) :
    rewriteRows items rows = rewriteInOrder 1 items rows :=
  rewriteFrom_eq_rewriteInOrder (by rw [Int.add_comm]; exact h)

theorem length_rewriteRows {items : List Item} (h : Stacked (rows.length + 1) 1 items) :
    ((rewriteRows items rows).length : Int) = rows.length + growthOf items := by
  rw [rewriteRows_eq h]
  exact length_rewriteInOrder (by rw [Int.add_comm]; exact h)

/-- A document does not run out of rows. -/
theorem rewriteRows_ne_nil {items : List Item} (h : Stacked (rows.length + 1) 1 items)
    (hne : rows ≠ []) : rewriteRows items rows ≠ [] := by
  rw [rewriteRows_eq h]
  cases items with
  | nil => exact hne
  | cons item rest => simp [rewriteInOrder, item.rows_ne_nil]

/-- **Applying an item to a rewritten document.** Moved by what the items above it have grown, the
item lands on its own rows, and the document is the one rewritten by all the items. -/
theorem applyRows_shift_rewriteRows {above below : List Item} {item : Item}
    (h : Stacked (rows.length + 1) 1 (above ++ item :: below)) :
    Buffer.applyRows (item.shift (growthOf above)) (rewriteRows (above ++ below) rows)
      = rewriteRows (above ++ item :: below) rows := by
  have hsub : Stacked (rows.length + 1) 1 (above ++ below) :=
    h.sublist (List.Sublist.append_left (List.sublist_cons_self item below) above)
  have hlower := h.le_startRow_add_growthOf
  have hupper : item.startRow + growthOf above - 1
      ≤ (rewriteRows (above ++ below) rows).length := by
    have hlen := length_rewriteRows hsub
    have hbelow := h.below.le_add_growthOf
    have hspan := item.startRow_le_stopRow
    rw [growthOf_append] at hlen
    omega
  rw [Buffer.applyRows_eq (by simpa using hlower), Item.startRow_shift, Item.stopRow_shift,
    Item.rows_shift, Buffer.padTo_of_le hupper, rewriteRows_eq h, rewriteRows_eq hsub,
    rewriteInOrder_insert (by rw [Int.add_comm]; exact h)]

end GhostEdit
